import P2PTransmission.Realtime.Retry

/-!
# What a pass of the maintenance leaves undone

`run_once` selects what is due, applies one command to each element of the batch, and announces what the commands have
changed. `PassLog` records what one pass selected, tried, committed and announced, step by step, while anything else
happens in between (`Passing`). A pass that meets no error on its way loses nothing (`PassLog.Lossless`); the first error
ends it, with the mutations that it has already committed.
-/

set_option autoImplicit false

namespace P2PTransmission

open Storage (RoomMutation)
open Server (Applies)

/-! ## The log of a pass -/

structure PassLog where
  dueRooms : List RoomCode := []
  triedRooms : List RoomCode := []
  /-- The rooms that the pass has expired, as they were after it. -/
  expiredRooms : List Room := []
  announced : List Broadcast := []
  disconnected : List RoomId := []
  /-- Whether the pass has come to the join requests. -/
  asked : Bool := false
  dueRequests : List Server.DueRequest := []
  triedRequests : List Server.DueRequest := []
  /-- The rooms in which the pass has expired a request, as they were after it. -/
  expiredRequests : List Room := []
  deriving DecidableEq

/-- The room that a command of a batch has changed. -/
def committed : Except StorageError RoomMutation → List Room
  | .ok mutation => if mutation.outcome.changed then [mutation.room] else []
  | .error _ => []

namespace PassLog

/-- What the next call of the pass adds to its log. -/
def next (choice : Choice) (server : Server) (log : PassLog) : Maintenance → PassLog
  | .start =>
    match choice.now with
    | none => log
    | some now => if choice.fault then log else { log with dueRooms := server.dueRooms now MAINTENANCE_BATCH }
  | .expireRooms now (code :: _) _ =>
    { log with
      triedRooms := code :: log.triedRooms
      expiredRooms := committed (server.applyRoomCommand choice.fault code none (.expire now)).1 ++ log.expiredRooms }
  | .announceRooms _ (mutation :: _) =>
    { log with announced := Maintenance.roomExpired mutation.room :: log.announced }
  | .disconnectRoom _ room _ _ => { log with disconnected := room.id :: log.disconnected }
  | .dueRequests now =>
    { log with
      asked := true
      dueRequests := if choice.fault then [] else server.dueJoinRequests now MAINTENANCE_BATCH }
  | .expireRequests now (due :: _) _ =>
    { log with
      triedRequests := due :: log.triedRequests
      expiredRequests :=
        committed (server.applyRoomCommand choice.fault due.code none (.expireJoinRequest due.requestId now)).1 ++
          log.expiredRequests }
  | .announceSnapshot _ room snapshot _ =>
    { log with announced := { roomId := room.id, message := .roomSnapshot snapshot } :: log.announced }
  | .expireRooms _ [] _ | .announceRooms _ [] | .expireRequests _ [] _ | .readSnapshots _ _ | .expireSessions _
  | .finished => log

/-- The room was told of its expiry, and its connections were closed. -/
def RoomTold (log : PassLog) (room : Room) : Prop :=
  Maintenance.roomExpired room ∈ log.announced ∧ room.id ∈ log.disconnected

/-- The room was sent a snapshot that shows the change. -/
def SnapshotSent (log : PassLog) (room : Room) : Prop :=
  ∃ snapshot, { roomId := room.id, message := .roomSnapshot snapshot : Broadcast } ∈ log.announced ∧
    room.revision ≤ snapshot.revision

/-- Every expiry that the pass committed was issued in the pass, and nothing stopped the rest of its batches. -/
structure Lossless (log : PassLog) : Prop where
  rooms : ∀ room ∈ log.expiredRooms, log.RoomTold room
  requests : ∀ room ∈ log.expiredRequests, log.SnapshotSent room
  triedRooms : ∀ code ∈ log.dueRooms, code ∈ log.triedRooms
  triedRequests : ∀ due ∈ log.dueRequests, due ∈ log.triedRequests
  asked : log.triedRooms ≠ [] → log.asked = true

end PassLog

namespace World

/-- The pass of task `n` is under way in the world, with this log, and all its calls so far met a condition. Anything may
happen in between but a restart, which ends the pass. -/
inductive Passing (cond : Choice → Server → Maintenance → Prop) (n : Nat) : World → PassLog → Prop
  | begun {world world' : World} : Reachable world → Step world (.maintain n) world' → Passing cond n world' {}
  | acted {world world' : World} {log : PassLog} {cleanup : Cleanup} {pass : Maintenance} {choice : Choice} :
      Passing cond n world log → world.tasks[n]? = some { cleanup, work := .maintenance pass } → cleanup.Done →
      cond choice world.server pass → Step world (.run n choice) world' →
      Passing cond n world' (log.next choice world.server pass)
  | cleaned {world world' : World} {log : PassLog} {cleanup : Cleanup} {work : Work} {choice : Choice} :
      Passing cond n world log → world.tasks[n]? = some { cleanup, work } → ¬cleanup.Done →
      Step world (.run n choice) world' → Passing cond n world' log
  | other {world world' : World} {log : PassLog} {label : Label} : Passing cond n world log →
      (∀ choice, label ≠ .run n choice) → label ≠ .restart → Step world label world' → Passing cond n world' log

end World

/-! ## The condition -/

namespace Maintenance

/-- Nothing stands in the way of the next call: the storage answers, the room of the next request is still active, no
revision is at its end, and the owner of the next snapshot can read its room. The last request of a batch that has changed
nothing may fail. -/
def Clear (choice : Choice) (server : Server) : Maintenance → Prop
  | .expireRooms _ (code :: _) _ => choice.fault = false ∧
      ∀ room ∈ server.rooms[code]?, room.state = .active → room.revision < U64_MAX
  | .expireRequests _ (due :: rest) mutations => rest = [] ∧ mutations = [] ∨ choice.fault = false ∧
      ∀ room ∈ server.rooms[due.code]?, room.state = .active ∧
        (room.joinRequestState due.requestId = some .pending → room.revision < U64_MAX)
  | .readSnapshots _ (mutation :: _) => choice.fault = false ∧
      ∃ owner ∈ server.sessions[mutation.room.owner]?, (server.bootstrapRoom choice owner mutation.room.code).toOption.isSome
  | _ => True

instance (choice : Choice) (server : Server) : (pass : Maintenance) → Decidable (Clear choice server pass)
  | .expireRooms _ (code :: _) _ => inferInstanceAs (Decidable (choice.fault = false ∧
      ∀ room ∈ server.rooms[code]?, room.state = .active → room.revision < U64_MAX))
  | .expireRequests _ (due :: rest) mutations => inferInstanceAs (Decidable (rest = [] ∧ mutations = [] ∨
      choice.fault = false ∧ ∀ room ∈ server.rooms[due.code]?, room.state = .active ∧
        (room.joinRequestState due.requestId = some .pending → room.revision < U64_MAX)))
  | .readSnapshots _ (mutation :: _) => inferInstanceAs (Decidable (choice.fault = false ∧
      ∃ owner ∈ server.sessions[mutation.room.owner]?,
        (server.bootstrapRoom choice owner mutation.room.code).toOption.isSome))
  | .start | .expireRooms _ [] _ | .announceRooms _ _ | .disconnectRoom _ _ _ _ | .dueRequests _
  | .expireRequests _ [] _ | .readSnapshots _ [] | .announceSnapshot _ _ _ _ | .expireSessions _ | .finished =>
    inferInstanceAs (Decidable True)

end Maintenance

/-! ## Commands of a batch -/

namespace Server

variable {server server' : Server} {code : RoomCode} {now : Nat}

theorem applyRoomCommand_of {command : RoomCommand} {room : Room} (hroom : server.rooms[code]? = some room)
    (hok : ∃ outcome, (room.handle command).1 = .ok outcome) :
    ∃ mutation, (server.applyRoomCommand false code none command).1 = .ok mutation := by
  obtain ⟨outcome, hok⟩ := hok
  unfold applyRoomCommand
  rw [if_neg (by simp), hroom]
  dsimp only [Option.filter]
  generalize hhandle : room.handle command = handled at hok
  obtain ⟨result, next⟩ := handled
  cases hok
  exact ⟨_, rfl⟩

/-- The room is stored, and its time is over. -/
def Over (server : Server) (now : Nat) (code : RoomCode) : Prop :=
  ∃ room, server.rooms[code]? = some room ∧ room.expiresAt ≤ now

/-- The request is stored in a room whose time is not over, and the time of the request is. -/
def RequestOver (server : Server) (now : Nat) (due : DueRequest) : Prop :=
  ∃ room request, server.rooms[due.code]? = some room ∧ now < room.expiresAt ∧
    room.joinRequests[due.requestId]? = some request ∧ request.expiresAt ≤ now

/-- The stored room is at the revision of this one, or further. -/
def Reached (server : Server) (room : Room) : Prop :=
  ∃ stored, server.rooms[room.code]? = some stored ∧ stored.id = room.id ∧ room.revision ≤ stored.revision

theorem Remembers.over (h : server.Remembers server') (hover : server.Over now code) : server'.Over now code := by
  obtain ⟨room, hroom, hle⟩ := hover
  obtain ⟨next, hnext, hexpiry, -⟩ := h.room code room hroom
  exact ⟨next, hnext, hexpiry ▸ hle⟩

theorem Remembers.requestOver (h : server.Remembers server') {due : DueRequest} (hover : server.RequestOver now due) :
    server'.RequestOver now due := by
  obtain ⟨room, request, hroom, hlive, hrequest, hle⟩ := hover
  obtain ⟨next, hnext, hexpiry, hrequests⟩ := h.room due.code room hroom
  obtain ⟨state, hkept⟩ := hrequests due.requestId request hrequest
  exact ⟨next, { request with state }, hnext, hexpiry ▸ hlive, hkept, hle⟩

theorem MovesOn.reached (h : server.MovesOn server') {room : Room} (hreached : server.Reached room) :
    server'.Reached room := by
  obtain ⟨stored, hstored, hid, hle⟩ := hreached
  obtain ⟨next, hnext, hsame, hmore, -⟩ := h room.code stored hstored
  exact ⟨next, hnext, hsame.trans hid, hle.trans hmore⟩

/-- A room that is due is expired, unless its revision is at the end. -/
theorem Over.expires (hover : server.Over now code)
    (hclear : ∀ room ∈ server.rooms[code]?, room.state = .active → room.revision < U64_MAX) :
    ∃ mutation, (server.applyRoomCommand false code none (.expire now)).1 = .ok mutation := by
  obtain ⟨room, hroom, hle⟩ := hover
  refine applyRoomCommand_of hroom ?_
  show ∃ outcome, (room.expire now).1 = .ok outcome
  unfold Room.expire
  by_cases hstate : room.state = .expired
  · rw [if_pos hstate]
    exact ⟨_, rfl⟩
  · have hrevision := hclear room hroom (Room.active_of_not_expired hstate)
    rw [if_neg hstate, if_neg (by omega)]
    unfold Room.commit Revision.next
    rw [if_pos (by exact hrevision)]
    exact ⟨_, rfl⟩

/-- A request that is due is expired or found decided, unless its room was closed or its revision is at the end. -/
theorem RequestOver.expires {due : DueRequest} (hover : server.RequestOver now due)
    (hclear : ∀ room ∈ server.rooms[due.code]?, room.state = .active ∧
      (room.joinRequestState due.requestId = some .pending → room.revision < U64_MAX)) :
    ∃ mutation, (server.applyRoomCommand false due.code none (.expireJoinRequest due.requestId now)).1 = .ok mutation := by
  obtain ⟨room, request, hroom, hlive, hrequest, hle⟩ := hover
  obtain ⟨hactive, hrevision⟩ := hclear room hroom
  refine applyRoomCommand_of hroom ?_
  show ∃ outcome, (room.expireJoinRequest due.requestId now).1 = .ok outcome
  unfold Room.expireJoinRequest
  rw [Room.ensureActive_of hactive hlive, hrequest]
  dsimp only
  by_cases hstate : request.state = .pending
  · have hfits := hrevision (by rw [Room.joinRequestState, hrequest, ← hstate]; rfl)
    rw [if_neg (by simpa using hstate), if_neg (by omega)]
    unfold Room.commit Revision.next
    rw [if_pos (by exact hfits)]
    exact ⟨_, rfl⟩
  · rw [if_pos hstate]
    exact ⟨_, rfl⟩

theorem mem_dueRooms {limit : Nat} (hok : RoomsOk server.rooms) (h : code ∈ server.dueRooms now limit) :
    server.Over now code := by
  unfold dueRooms at h
  obtain ⟨room, hmem, rfl⟩ := List.mem_map.mp h
  have hmem := (List.mem_insertionSort _).mp (List.mem_of_mem_take hmem)
  obtain ⟨hmem, hdue⟩ := List.mem_filter.mp hmem
  obtain ⟨⟨code, stored⟩, hstored, rfl⟩ := List.mem_map.mp hmem
  have hstored := BTreeMap.mem_toList.mp hstored
  simp only [decide_eq_true_eq] at hdue
  exact ⟨stored, by rw [hok.code code stored hstored]; exact hstored, hdue.2⟩

theorem mem_dueJoinRequests {limit : Nat} {due : DueRequest} (hok : RoomsOk server.rooms)
    (h : due ∈ server.dueJoinRequests now limit) : server.RequestOver now due := by
  unfold dueJoinRequests at h
  have hmem := (List.mem_insertionSort _).mp (List.mem_of_mem_take h)
  obtain ⟨room, hroom, hrequest⟩ := List.mem_flatMap.mp hmem
  obtain ⟨hroom, hlive⟩ := List.mem_filter.mp hroom
  obtain ⟨⟨code, stored⟩, hstored, rfl⟩ := List.mem_map.mp hroom
  have hstored := BTreeMap.mem_toList.mp hstored
  obtain ⟨request, hmember, rfl⟩ := List.mem_map.mp hrequest
  obtain ⟨hmember, hdue⟩ := List.mem_filter.mp hmember
  simp only [decide_eq_true_eq] at hlive hdue
  refine ⟨stored, _, ?_, hlive.2, mem_joinRequestSnapshots.mp hmember, hdue.2⟩
  show server.rooms[stored.code]? = some stored
  rw [hok.code code stored hstored]
  exact hstored

end Server

/-! ## What a pass still owes -/

namespace PassLog

variable {log : PassLog} {server server' : Server} {mutations : List RoomMutation}

def NoRequests (log : PassLog) : Prop := log.dueRequests = [] ∧ log.expiredRequests = []

/-- The rooms that the pass has expired are told, or among these mutations. -/
def OwesRooms (log : PassLog) (mutations : List RoomMutation) : Prop :=
  ∀ room ∈ log.expiredRooms, (∃ mutation ∈ mutations, mutation.room = room) ∨ log.RoomTold room

/-- The rooms in which the pass has expired a request have a snapshot, or are among these mutations. -/
def OwesRequests (log : PassLog) (mutations : List RoomMutation) : Prop :=
  ∀ room ∈ log.expiredRequests, (∃ mutation ∈ mutations, mutation.room = room) ∨ log.SnapshotSent room

/-- What is left of a batch, with what is tried, is the batch. -/
def RoomsLeft (log : PassLog) (due : List RoomCode) : Prop := ∀ code ∈ log.dueRooms, code ∈ log.triedRooms ∨ code ∈ due

def RequestsLeft (log : PassLog) (due : List Server.DueRequest) : Prop :=
  ∀ request ∈ log.dueRequests, request ∈ log.triedRequests ∨ request ∈ due

/-- The rooms are done with, and the pass has come to the join requests. -/
def RoomsDone (log : PassLog) : Prop := log.RoomsLeft [] ∧ log.OwesRooms [] ∧ log.asked = true

/-- What holds of the log of a pass at each point of it. -/
def Owes (log : PassLog) (server : Server) : Maintenance → Prop
  | .start => log = {}
  | .expireRooms now due mutations =>
    log.RoomsLeft due ∧ log.OwesRooms mutations ∧ log.NoRequests ∧ ∀ code ∈ due, server.Over now code
  | .announceRooms _ mutations => log.RoomsLeft [] ∧ log.OwesRooms mutations ∧ log.NoRequests
  | .disconnectRoom _ room _ mutations => log.RoomsLeft [] ∧ Maintenance.roomExpired room ∈ log.announced ∧
      (∀ expired ∈ log.expiredRooms, expired = room ∨ (∃ mutation ∈ mutations, mutation.room = expired) ∨
        log.RoomTold expired) ∧ log.NoRequests
  | .dueRequests _ => log.RoomsLeft [] ∧ log.OwesRooms [] ∧ log.NoRequests
  | .expireRequests now due mutations => log.RoomsDone ∧ log.RequestsLeft due ∧ log.OwesRequests mutations ∧
      (∀ request ∈ due, server.RequestOver now request) ∧ ∀ mutation ∈ mutations, server.Reached mutation.room
  | .readSnapshots _ mutations => log.RoomsDone ∧ log.RequestsLeft [] ∧ log.OwesRequests mutations ∧
      ∀ mutation ∈ mutations, server.Reached mutation.room
  | .announceSnapshot _ room snapshot mutations => log.RoomsDone ∧ log.RequestsLeft [] ∧
      (∀ expired ∈ log.expiredRequests, expired.id = room.id ∧ expired.revision ≤ snapshot.revision ∨
        (∃ mutation ∈ mutations, mutation.room = expired) ∨ log.SnapshotSent expired) ∧
      ∀ mutation ∈ mutations, server.Reached mutation.room
  | .expireSessions _ | .finished => log.Lossless

theorem Owes.later {pass : Maintenance} (h : log.Owes server pass) (hmoves : server.MovesOn server')
    (hremembers : server.Remembers server') : log.Owes server' pass := by
  cases pass with
  | start | announceRooms | disconnectRoom | dueRequests | expireSessions | finished => exact h
  | expireRooms now due mutations =>
    obtain ⟨hleft, howes, hnone, hover⟩ := h
    exact ⟨hleft, howes, hnone, fun code hcode => hremembers.over (hover code hcode)⟩
  | expireRequests now due mutations =>
    obtain ⟨hdone, hleft, howes, hover, hreached⟩ := h
    exact ⟨hdone, hleft, howes, fun due hdue => hremembers.requestOver (hover due hdue),
      fun mutation hmem => hmoves.reached (hreached mutation hmem)⟩
  | readSnapshots now mutations =>
    obtain ⟨hdone, hleft, howes, hreached⟩ := h
    exact ⟨hdone, hleft, howes, fun mutation hmem => hmoves.reached (hreached mutation hmem)⟩
  | announceSnapshot now room snapshot mutations =>
    obtain ⟨hdone, hleft, howes, hreached⟩ := h
    exact ⟨hdone, hleft, howes, fun mutation hmem => hmoves.reached (hreached mutation hmem)⟩

theorem lossless_empty : Lossless {} := by
  refine ⟨fun room hroom => ?_, fun room hroom => ?_, fun code hcode => ?_, fun due hdue => ?_, fun htried => absurd rfl htried⟩
  · cases hroom
  · cases hroom
  · cases hcode
  · cases hdue

/-- Nothing is left to announce: the pass has lost nothing. -/
theorem RoomsDone.lossless (hdone : log.RoomsDone) (hleft : log.RequestsLeft []) (howes : log.OwesRequests []) :
    log.Lossless := by
  obtain ⟨hrooms, hto, hasked⟩ := hdone
  refine ⟨fun room hroom => ?_, fun room hroom => ?_, fun code hcode => ?_, fun due hdue => ?_, fun _ => hasked⟩
  · rcases hto room hroom with ⟨mutation, hmem, -⟩ | htold
    · cases hmem
    · exact htold
  · rcases howes room hroom with ⟨mutation, hmem, -⟩ | hsent
    · cases hmem
    · exact hsent
  · rcases hrooms code hcode with htried | hmem
    · exact htried
    · cases hmem
  · rcases hleft due hdue with htried | hmem
    · exact htried
    · cases hmem

/-- The mutations of a batch, with the next one, have the rooms that the batch has changed. -/
theorem mem_committed {mutation : RoomMutation} {room : Room} (h : room ∈ committed (.ok mutation)) :
    ∃ m ∈ Maintenance.collect mutations mutation, m.room = room := by
  unfold committed at h
  unfold Maintenance.collect
  dsimp only at h
  split at h
  · rename_i hchanged
    rw [if_pos hchanged]
    rw [List.mem_singleton.mp h]
    exact ⟨mutation, List.mem_append_right _ (List.mem_singleton_self _), rfl⟩
  · cases h

theorem mem_collect {mutation m : RoomMutation} (h : m ∈ mutations) : m ∈ Maintenance.collect mutations mutation := by
  unfold Maintenance.collect
  split
  · exact List.mem_append_left _ h
  · exact h

theorem collect_cases {mutation m : RoomMutation} (h : m ∈ Maintenance.collect mutations mutation) :
    m ∈ mutations ∨ m = mutation := by
  unfold Maintenance.collect at h
  split at h
  · rcases List.mem_append.mp h with h | h
    · exact .inl h
    · exact .inr (List.mem_singleton.mp h)
  · exact .inl h

variable {choice : Choice} {pass' : Maintenance} {out : List Attachment}

theorem Owes.start (h : log.Owes server .start) (hok : Server.RoomsOk server.rooms)
    (hstep : Maintenance.step choice server .start = some (server', out, pass')) :
    (log.next choice server .start).Owes server' pass' := by
  have hempty : log = {} := h
  subst hempty
  unfold Maintenance.step at hstep
  unfold next
  cases hnow : choice.now with
  | none =>
    simp only [hnow] at hstep ⊢
    cases hstep
    exact lossless_empty
  | some now =>
    simp only [hnow] at hstep ⊢
    by_cases hfault : choice.fault = true
    · rw [if_pos hfault] at hstep ⊢
      cases hstep
      exact lossless_empty
    · rw [if_neg hfault] at hstep ⊢
      cases hstep
      refine ⟨fun code hcode => .inr hcode, fun room hroom => ?_, ⟨rfl, rfl⟩, fun code hcode => Server.mem_dueRooms hok hcode⟩
      cases hroom

theorem Owes.expireRooms {now : Nat} {due : List RoomCode} (h : log.Owes server (.expireRooms now due mutations))
    (hclear : Maintenance.Clear choice server (.expireRooms now due mutations))
    (hstep : Maintenance.step choice server (.expireRooms now due mutations) = some (server', out, pass'))
    (hremembers : server.Remembers server') : (log.next choice server (.expireRooms now due mutations)).Owes server' pass' := by
  obtain ⟨hleft, howes, hnone, hover⟩ := h
  cases due with
  | nil =>
    cases hstep
    exact ⟨hleft, howes, hnone⟩
  | cons code due =>
    obtain ⟨hfault, hclear⟩ := hclear
    obtain ⟨mutation, happly⟩ := (hover code List.mem_cons_self).expires hclear
    rw [← hfault] at happly
    unfold Maintenance.step at hstep
    unfold next
    dsimp only at hstep ⊢
    rw [happly]
    split at hstep
    · rename_i error next herror
      rw [herror] at happly
      cases happly
    · rename_i mutation' next hmutation
      rw [hmutation] at happly
      cases happly
      cases hstep
      refine ⟨fun c hc => ?_, fun room hroom => ?_, hnone, fun c hc => hremembers.over (hover c (List.mem_cons_of_mem _ hc))⟩
      · rcases hleft c hc with htried | hdue
        · exact .inl (List.mem_cons_of_mem _ htried)
        · rcases List.mem_cons.mp hdue with rfl | hdue
          · exact .inl List.mem_cons_self
          · exact .inr hdue
      · rcases List.mem_append.mp hroom with hnew | hold
        · exact .inl (mem_committed hnew)
        · rcases howes room hold with ⟨m, hm, hroom⟩ | htold
          · exact .inl ⟨m, mem_collect hm, hroom⟩
          · exact .inr htold

theorem Owes.announceRooms {now : Nat} (h : log.Owes server (.announceRooms now mutations))
    (hstep : Maintenance.step choice server (.announceRooms now mutations) = some (server', out, pass')) :
    (log.next choice server (.announceRooms now mutations)).Owes server' pass' := by
  obtain ⟨hleft, howes, hnone⟩ := h
  cases mutations with
  | nil =>
    cases hstep
    exact ⟨hleft, howes, hnone⟩
  | cons mutation mutations =>
    obtain ⟨⟨evicted, next⟩, -, hresult⟩ := Option.map_eq_some_iff.mp hstep
    cases hresult
    refine ⟨hleft, List.mem_cons_self, fun expired hexpired => ?_, hnone⟩
    rcases howes expired hexpired with ⟨m, hm, hroom⟩ | ⟨htold, hdisconnected⟩
    · rcases List.mem_cons.mp hm with rfl | hm
      · exact .inl hroom.symm
      · exact .inr (.inl ⟨m, hm, hroom⟩)
    · exact .inr (.inr ⟨List.mem_cons_of_mem _ htold, hdisconnected⟩)

theorem Owes.disconnectRoom {now : Nat} {room : Room} {cleanup : List Attachment}
    (h : log.Owes server (.disconnectRoom now room cleanup mutations))
    (hstep : Maintenance.step choice server (.disconnectRoom now room cleanup mutations) = some (server', out, pass')) :
    (log.next choice server (.disconnectRoom now room cleanup mutations)).Owes server' pass' := by
  obtain ⟨hleft, htold, howes, hnone⟩ := h
  obtain ⟨⟨disconnected, next⟩, -, hresult⟩ := Option.map_eq_some_iff.mp hstep
  cases hresult
  refine ⟨hleft, fun expired hexpired => ?_, hnone⟩
  rcases howes expired hexpired with rfl | hpending | ⟨htold', hdisconnected⟩
  · exact .inr ⟨htold, List.mem_cons_self⟩
  · exact .inl hpending
  · exact .inr ⟨htold', List.mem_cons_of_mem _ hdisconnected⟩

theorem Owes.dueRequests {now : Nat} (h : log.Owes server (.dueRequests now)) (hok : Server.RoomsOk server.rooms)
    (hstep : Maintenance.step choice server (.dueRequests now) = some (server', out, pass')) :
    (log.next choice server (.dueRequests now)).Owes server' pass' := by
  obtain ⟨hleft, howes, hdue, hexpired⟩ := h
  unfold Maintenance.step at hstep
  unfold next
  dsimp only at hstep ⊢
  split at hstep
  · rename_i hfault
    cases hstep
    refine RoomsDone.lossless ⟨hleft, howes, rfl⟩ (fun request hrequest => ?_) (fun room hroom => ?_)
    · rw [if_pos hfault] at hrequest
      cases hrequest
    · rw [hexpired] at hroom
      cases hroom
  · rename_i hfault
    cases hstep
    rw [if_neg hfault]
    refine ⟨⟨hleft, howes, rfl⟩, fun request hrequest => .inr hrequest, fun room hroom => ?_,
      fun request hrequest => Server.mem_dueJoinRequests hok hrequest, fun m hm => ?_⟩
    · rw [hexpired] at hroom
      cases hroom
    · cases hm

theorem Owes.expireRequests {now : Nat} {due : List Server.DueRequest} (hok : Server.RoomsOk server.rooms)
    (h : log.Owes server (.expireRequests now due mutations))
    (hclear : Maintenance.Clear choice server (.expireRequests now due mutations))
    (hstep : Maintenance.step choice server (.expireRequests now due mutations) = some (server', out, pass'))
    (hmoves : server.MovesOn server') (hremembers : server.Remembers server') :
    (log.next choice server (.expireRequests now due mutations)).Owes server' pass' := by
  obtain ⟨hdone, hleft, howes, hover, hreached⟩ := h
  cases due with
  | nil =>
    cases hstep
    exact ⟨hdone, hleft, howes, hreached⟩
  | cons request due =>
    have hleft' : ∀ r ∈ log.dueRequests, r ∈ request :: log.triedRequests ∨ r ∈ due := by
      intro r hr
      rcases hleft r hr with htried | hdue
      · exact .inl (List.mem_cons_of_mem _ htried)
      · rcases List.mem_cons.mp hdue with rfl | hdue
        · exact .inl List.mem_cons_self
        · exact .inr hdue
    unfold Maintenance.step at hstep
    unfold next
    dsimp only at hstep ⊢
    split at hstep
    · rename_i error next herror
      cases hstep
      rcases hclear with ⟨rfl, rfl⟩ | ⟨hfault, hclear⟩
      · rw [herror]
        exact RoomsDone.lossless hdone hleft' howes
      · obtain ⟨mutation, happly⟩ := (hover request List.mem_cons_self).expires hclear
        rw [← hfault, herror] at happly
        cases happly
    · rename_i mutation next hmutation
      cases hstep
      rw [hmutation]
      have happlies := Server.applyRoomCommand_ok hmutation
      refine ⟨hdone, hleft', fun room hroom => ?_,
        fun r hr => hremembers.requestOver (hover r (List.mem_cons_of_mem _ hr)), fun m hm => ?_⟩
      · rcases List.mem_append.mp hroom with hnew | hold
        · exact .inl (mem_committed hnew)
        · rcases howes room hold with ⟨m, hm, hroom⟩ | hsent
          · exact .inl ⟨m, mem_collect hm, hroom⟩
          · exact .inr hsent
      · rcases collect_cases hm with hm | rfl
        · exact hmoves.reached (hreached m hm)
        · obtain ⟨room, hroom, hhandle⟩ := happlies.handled
          have hsame := Room.handle_same room (.expireJoinRequest request.requestId now)
          rw [hhandle] at hsame
          refine ⟨_, ?_, rfl, Nat.le_refl _⟩
          rw [hsame.code, hok.code request.code room hroom]
          exact happlies.stored

theorem Owes.readSnapshots {now : Nat} (h : log.Owes server (.readSnapshots now mutations))
    (hclear : Maintenance.Clear choice server (.readSnapshots now mutations))
    (hstep : Maintenance.step choice server (.readSnapshots now mutations) = some (server', out, pass')) :
    (log.next choice server (.readSnapshots now mutations)).Owes server' pass' := by
  obtain ⟨hdone, hleft, howes, hreached⟩ := h
  cases mutations with
  | nil =>
    cases hstep
    exact hdone.lossless hleft howes
  | cons mutation mutations =>
    obtain ⟨hfault, owner, howner, hread⟩ := hclear
    unfold Maintenance.step at hstep
    dsimp only at hstep
    rw [if_neg (by simp [hfault]), show server.sessions[mutation.room.owner]? = some owner from howner] at hstep
    dsimp only at hstep
    split at hstep
    · rename_i error herror
      rw [herror] at hread
      cases hread
    · rename_i snapshot hsnapshot
      cases hstep
      obtain ⟨room, hroom, -, hrevision⟩ := Server.bootstrapRoom_ok hsnapshot
      obtain ⟨stored, hstored, -, hle⟩ := hreached mutation List.mem_cons_self
      rw [hroom] at hstored
      cases hstored
      refine ⟨hdone, hleft, fun expired hexpired => ?_, fun m hm => hreached m (List.mem_cons_of_mem _ hm)⟩
      rcases howes expired hexpired with ⟨m, hm, hsame⟩ | hsent
      · rcases List.mem_cons.mp hm with rfl | hm
        · refine .inl ⟨by rw [hsame], ?_⟩
          rw [← hsame, hrevision]
          exact hle
        · exact .inr (.inl ⟨m, hm, hsame⟩)
      · exact .inr (.inr hsent)

theorem Owes.announceSnapshot {now : Nat} {room : Room} {snapshot : RoomBootstrapResponse}
    (h : log.Owes server (.announceSnapshot now room snapshot mutations))
    (hstep : Maintenance.step choice server (.announceSnapshot now room snapshot mutations) = some (server', out, pass'))
    (hmoves : server.MovesOn server') :
    (log.next choice server (.announceSnapshot now room snapshot mutations)).Owes server' pass' := by
  obtain ⟨hdone, hleft, howes, hreached⟩ := h
  obtain ⟨⟨evicted, next⟩, -, hresult⟩ := Option.map_eq_some_iff.mp hstep
  cases hresult
  obtain ⟨hrooms, htold, hasked⟩ := hdone
  refine ⟨⟨hrooms, fun expired hexpired => ?_, hasked⟩, hleft, fun expired hexpired => ?_,
    fun m hm => hmoves.reached (hreached m hm)⟩
  · rcases htold expired hexpired with hpending | ⟨htold, hdisconnected⟩
    · exact .inl hpending
    · exact .inr ⟨List.mem_cons_of_mem _ htold, hdisconnected⟩
  · rcases howes expired hexpired with ⟨hid, hle⟩ | hpending | ⟨other, hother, hle⟩
    · refine .inr ⟨snapshot, ?_, hle⟩
      rw [hid]
      exact List.mem_cons_self
    · exact .inl hpending
    · exact .inr ⟨other, List.mem_cons_of_mem _ hother, hle⟩

/-- A pass with nothing in its way loses nothing in its next call. -/
theorem Owes.step {pass : Maintenance} (hok : Server.RoomsOk server.rooms) (h : log.Owes server pass)
    (hclear : Maintenance.Clear choice server pass)
    (hstep : pass.step choice server = some (server', out, pass')) (hmoves : server.MovesOn server')
    (hremembers : server.Remembers server') : (log.next choice server pass).Owes server' pass' := by
  cases pass with
  | start => exact h.start hok hstep
  | expireRooms now due mutations => exact h.expireRooms hclear hstep hremembers
  | announceRooms now mutations => exact h.announceRooms hstep
  | disconnectRoom now room cleanup mutations => exact h.disconnectRoom hstep
  | dueRequests now => exact h.dueRequests hok hstep
  | expireRequests now due mutations => exact h.expireRequests hok hclear hstep hmoves hremembers
  | readSnapshots now mutations => exact h.readSnapshots hclear hstep
  | announceSnapshot now room snapshot mutations => exact h.announceSnapshot hstep hmoves
  | expireSessions now =>
    cases hstep
    exact h
  | finished => cases hstep

end PassLog

/-! ## Whole passes -/

namespace World

variable {world world' : World} {label : Label} {n : Nat} {log : PassLog}

/-- A step with the log of pass `n`, if the pass makes no call that fails the test. -/
def passStep (test : Choice → Server → Maintenance → Bool) (n : Nat) (s : World × PassLog) (label : Label) :
    Option (World × PassLog) :=
  if label = .restart then none
  else (s.1.step label).bind fun world' =>
    match label with
    | .run m choice =>
      if m = n then
        match s.1.tasks[n]? with
        | some { cleanup, work := .maintenance pass } =>
          if cleanup.Done then
            if test choice s.1.server pass then some (world', s.2.next choice s.1.server pass) else none
          else some (world', s.2)
        | _ => none
      else some (world', s.2)
    | _ => some (world', s.2)

theorem Passing.follow {cond : Choice → Server → Maintenance → Prop} {test : Choice → Server → Maintenance → Bool}
    (htest : ∀ choice server pass, test choice server pass = true → cond choice server pass) {s s' : World × PassLog}
    {label : Label} (h : Passing cond n s.1 s.2) (hstep : passStep test n s label = some s') :
    Passing cond n s'.1 s'.2 := by
  unfold passStep at hstep
  split at hstep
  · cases hstep
  rename_i hrestart
  obtain ⟨world', hworld, hstep⟩ := Option.bind_eq_some_iff.mp hstep
  split at hstep
  · rename_i m choice
    split at hstep
    · rename_i hm
      subst hm
      split at hstep
      · rename_i htask
        split at hstep
        · rename_i hdone
          split at hstep
          · rename_i hpass
            cases hstep
            exact .acted h htask hdone (htest _ _ _ hpass) hworld
          · cases hstep
        · rename_i hdone
          cases hstep
          exact .cleaned h htask hdone hworld
      · cases hstep
    · rename_i hm
      cases hstep
      refine .other h (fun choice' => ?_) hrestart hworld
      rintro ⟨⟩
      exact hm rfl
  · rename_i hrun
    cases hstep
    exact .other h (fun choice hlabel => hrun n choice hlabel) hrestart hworld

theorem Passing.of_follow {cond : Choice → Server → Maintenance → Prop} {test : Choice → Server → Maintenance → Bool}
    (htest : ∀ choice server pass, test choice server pass = true → cond choice server pass)
    (before : List Label) {labels : List Label} {begun : World} {s : World × PassLog}
    (hbefore : (World.initial 64 100).runAll (before ++ [.maintain n]) = some begun)
    (hlabels : Run.follow (passStep test n) (begun, {}) labels = some s) : Passing cond n s.1 s.2 := by
  refine (Run.of_follow hlabels).invariant (I := fun s => Passing cond n s.1 s.2)
    (fun s label s' h hstep => h.follow htest hstep) ?_
  obtain ⟨world, hfirst, hlast⟩ := (run_of_runAll hbefore).split
  cases hlast with
  | cons hs hnil =>
    cases hnil
    exact .begun ⟨64, 100, before, hfirst⟩ hs

def secondCode : RoomCode := .of "SEC234"

/-- The owner has a second room, that closes at `expiresAt`. -/
def twoRooms (expiresAt : Nat) : List Label :=
  opening ++ [.createRoom (.of "room_second") secondCode ownerSession.id 0 expiresAt] ++ guestAsks []

/-- The next call of the pass `9`, at the time `500`. -/
def passes : Label := .run 9 { now := some 500, fault := false, order := [] }

end World

end P2PTransmission
