import P2PTransmission.Realtime.Acts
import P2PTransmission.Realtime.HubSpec

/-!
# What holds in every world

The indexes of the hub are right, every attachment anywhere in the server names a stored room by its code and its id,
and the sessions that tasks work for are stored. `Sane` collects this and holds after every run (`World.Reachable.sane`);
it asks nothing of the order of the steps.
-/

set_option autoImplicit false

namespace P2PTransmission

open Storage (RoomMutation)

/-! ## Stored rooms and sessions -/

namespace Server

/-- The rooms of the store are stored under their codes, and no two of them share an id. -/
structure RoomsOk (rooms : BTreeMap RoomCode Room) : Prop where
  code : ∀ (code : RoomCode) (room : Room), rooms[code]? = some room → room.code = code
  id : ∀ (code code' : RoomCode) (room room' : Room), rooms[code]? = some room → rooms[code']? = some room' →
    room.id = room'.id → code = code'

def displayName (server : Server) (sessionId : SessionId) : Option DisplayName :=
  server.sessions[sessionId]?.map (·.displayName)

/-- A session as the server has it, but for its state. -/
def Known (server : Server) (session : Session) : Prop := server.displayName session.id = some session.displayName

/-- The room of this code has this id. -/
def HasRoom (server : Server) (code : RoomCode) (roomId : RoomId) : Prop :=
  ∃ room, server.rooms[code]? = some room ∧ room.id = roomId

def Proper (server : Server) (attachment : Attachment) : Prop := server.HasRoom attachment.roomCode attachment.roomId

/-- Rooms and sessions stay, with their names. -/
structure Extends (server server' : Server) : Prop where
  rooms : RoomsOk server.rooms → RoomsOk server'.rooms
  kept : ∀ (code : RoomCode) (room : Room), server.rooms[code]? = some room → ∃ room', server'.rooms[code]? = some room' ∧ room'.id = room.id
  names : ∀ sessionId name, server.displayName sessionId = some name → server'.displayName sessionId = some name

variable {server server' server'' : Server} {code : RoomCode} {command : RoomCommand}

theorem Extends.refl (server : Server) : Extends server server :=
  ⟨id, fun _ room h => ⟨room, h, rfl⟩, fun _ _ h => h⟩

/-- Rooms and sessions do not depend on the rest of the server. -/
theorem Extends.of_same (hrooms : server'.rooms = server.rooms) (hsessions : server'.sessions = server.sessions) :
    Extends server server' := by
  refine ⟨fun h => hrooms ▸ h, fun _ room h => ⟨room, hrooms ▸ h, rfl⟩, fun _ _ h => ?_⟩
  rw [displayName, hsessions]
  exact h

theorem Extends.hasRoom (h : Extends server server') {roomId : RoomId} (hroom : server.HasRoom code roomId) :
    server'.HasRoom code roomId := by
  obtain ⟨room, hget, hid⟩ := hroom
  obtain ⟨room', hget', hid'⟩ := h.kept code room hget
  exact ⟨room', hget', hid'.trans hid⟩

theorem Extends.known (h : Extends server server') {session : Session} (hknown : server.Known session) :
    server'.Known session := h.names _ _ hknown

/-- What a command committed is stored. -/
theorem commit_extends {room next : Room} (hroom : server.rooms[code]? = some room)
    (hhandle : room.handle command = (.ok .CHANGED, next)) : Extends server (server.commit code next command) := by
  have hsame : Room.SameRoom room next := by
    have := Room.handle_same room command
    rwa [hhandle] at this
  refine ⟨fun h => ⟨fun c r hr => ?_, fun c c' r r' hr hr' hid => ?_⟩, fun c r hr => ?_, fun _ _ h => h⟩
  · have hr : (server.rooms.insert code next)[c]? = some r := hr
    rw [BTreeMap.getElem?_insert] at hr
    split at hr
    · rename_i hc
      cases hr
      rw [← hc, hsame.code]
      exact h.code code room hroom
    · exact h.code c r hr
  · have hr : (server.rooms.insert code next)[c]? = some r := hr
    have hr' : (server.rooms.insert code next)[c']? = some r' := hr'
    rw [BTreeMap.getElem?_insert] at hr hr'
    split at hr <;> split at hr'
    · rename_i hc hc'
      rw [← hc, ← hc']
    · rename_i hc _
      cases hr
      rw [hsame.id] at hid
      rw [← hc]
      exact h.id code c' room r' hroom hr' hid
    · rename_i _ hc'
      cases hr'
      rw [hsame.id] at hid
      rw [← hc']
      exact h.id c code r room hr hroom hid
    · exact h.id c c' r r' hr hr' hid
  · by_cases hc : code = c
    · subst hc
      rw [hroom] at hr
      cases hr
      refine ⟨next, ?_, hsame.id⟩
      show (server.rooms.insert code next)[code]? = some next
      rw [BTreeMap.getElem?_insert, if_pos rfl]
    · refine ⟨r, ?_, rfl⟩
      show (server.rooms.insert code next)[c]? = some r
      rw [BTreeMap.getElem?_insert, if_neg hc]
      exact hr

theorem Applies.extends {mutation : RoomMutation} (h : Applies server code command mutation server') :
    Extends server server' := by
  cases h with
  | unchanged => exact .refl server
  | changed hroom hhandle => exact commit_extends hroom hhandle

/-- The room that an accepted command answers with is the stored one. -/
theorem Applies.stored {mutation : RoomMutation} (h : Applies server code command mutation server') :
    server'.rooms[code]? = some mutation.room := by
  cases h with
  | unchanged hroom => exact hroom
  | @changed room next hroom hhandle =>
    show (server.rooms.insert code next)[code]? = some next
    rw [BTreeMap.getElem?_insert, if_pos rfl]

theorem Applies.hub {mutation : RoomMutation} (h : Applies server code command mutation server') :
    server'.hub = server.hub := by
  cases h <;> rfl

theorem foldl_expire {sessions : List Session} {stored : BTreeMap SessionId Session}
    (hstored : ∀ session ∈ sessions, ∃ old, stored[session.id]? = some old ∧ old.displayName = session.displayName)
    (sessionId : SessionId) :
    ((sessions.foldl (fun stored session => stored.insert session.id { session with state := .expired })
      stored)[sessionId]?).map (·.displayName) = stored[sessionId]?.map (·.displayName) := by
  induction sessions generalizing stored with
  | nil => rfl
  | cons session sessions ih =>
    obtain ⟨old, hold, hname⟩ := hstored session List.mem_cons_self
    have hlookup : ∀ id : SessionId, ((stored.insert session.id { session with state := .expired })[id]?).map
        (·.displayName) = stored[id]?.map (·.displayName) := by
      intro id
      rw [BTreeMap.getElem?_insert]
      by_cases hid : session.id = id
      · subst hid
        rw [if_pos rfl, hold, Option.map_some, Option.map_some, hname]
      · rw [if_neg hid]
    rw [List.foldl_cons, ih fun other hother => ?_, hlookup]
    obtain ⟨old', hold', hname'⟩ := hstored other (List.mem_cons_of_mem _ hother)
    have := hlookup other.id
    rw [hold', Option.map_some] at this
    obtain ⟨new, hnew, hnewName⟩ := Option.map_eq_some_iff.mp this
    exact ⟨new, hnew, hnewName.trans hname'⟩

/-- Sessions are stored under their ids. -/
def SessionsOk (sessions : BTreeMap SessionId Session) : Prop :=
  ∀ (id : SessionId) (session : Session), sessions[id]? = some session → session.id = id

theorem mem_dueSessions {now limit : Nat} {session : Session} (h : session ∈ server.dueSessions now limit) :
    ∃ id : SessionId, server.sessions[id]? = some session := by
  have h := List.mem_of_mem_take h
  rw [List.mem_insertionSort, List.mem_filter, List.mem_map] at h
  obtain ⟨⟨⟨id, s⟩, hmem, rfl⟩, -⟩ := h
  exact ⟨id, BTreeMap.mem_toList.mp hmem⟩

theorem expireDueSessions_extends (h : SessionsOk server.sessions) (now limit : Nat) :
    Extends server (server.expireDueSessions now limit) := by
  refine ⟨id, fun _ room hroom => ⟨room, hroom, rfl⟩, fun sessionId name hname => ?_⟩
  show (Option.map _ ((List.foldl _ _ _ : BTreeMap SessionId Session)[sessionId]?)) = _
  rw [foldl_expire fun session hsession => ?_]
  · exact hname
  · obtain ⟨id, hid⟩ := mem_dueSessions hsession
    exact ⟨session, by rw [h id session hid]; exact hid, rfl⟩

theorem expireDueSessions_ok (h : SessionsOk server.sessions) (now limit : Nat) :
    SessionsOk (server.expireDueSessions now limit).sessions := by
  show SessionsOk (List.foldl _ _ _)
  refine List.foldlRecOn (motive := SessionsOk) _ _ h fun stored hstored session _ id s hs => ?_
  have hs : (stored.insert session.id { session with state := .expired })[id]? = some s := hs
  rw [BTreeMap.getElem?_insert] at hs
  split at hs
  · rename_i hid
    cases hs
    exact hid
  · exact hstored id s hs

end Server

/-! ## Attachments in the hub -/

namespace HubState

variable {hub hub' hub'' : HubState} {c : ConnectionId} {out : List Attachment} {new : Attachment → Prop}

/-- An attachment that the hub has, of a connection or of an evicted one. -/
def Holds (hub : HubState) (a : Attachment) : Prop :=
  ∃ c : ConnectionId, hub.attachmentOf c = some a ∨ hub.evictedAttachments[c]? = some a

/-- No connection is evicted and registered. -/
def EvictedOk (hub : HubState) : Prop :=
  ∀ (c : ConnectionId) a, hub.evictedAttachments[c]? = some a → hub.connections[c]? = none

/-- What an operation can do: the attachments afterwards are the ones before and `new` ones, and it answers with
attachments that it had. -/
structure Moves (hub hub' : HubState) (new : Attachment → Prop) (out : List Attachment) : Prop where
  indexed : Indexed hub → Indexed hub'
  session : ∀ (c : ConnectionId) entry', hub'.connections[c]? = some entry' →
    ∃ entry, hub.connections[c]? = some entry ∧ entry.sessionId = entry'.sessionId
  attached : ∀ (c : ConnectionId) a, hub'.attachmentOf c = some a → hub.attachmentOf c = some a ∨ new a
  evicted : ∀ (c : ConnectionId) a, hub'.evictedAttachments[c]? = some a →
    hub.evictedAttachments[c]? = some a ∨ hub.attachmentOf c = some a ∧ hub'.connections[c]? = none
  out : ∀ a ∈ out, hub.Holds a

theorem Releases.moves (h : Releases hub hub' out) (new : Attachment → Prop) : Moves hub hub' new out where
  indexed := h.indexed
  session c entry' hentry := by
    rcases h.kept c with hk | hk
    · exact ⟨entry', hk ▸ hentry, rfl⟩
    · rw [hk] at hentry
      cases hentry
  attached c a ha := .inl (h.attached ha)
  evicted := h.evicted
  out a ha := by
    obtain ⟨c, hc, -⟩ := h.released a ha
    exact ⟨c, .inl hc⟩

theorem Moves.of_out {out' : List Attachment} (h : Moves hub hub' new out) (hout : ∀ a ∈ out', hub.Holds a) :
    Moves hub hub' new out' := { h with out := hout }

theorem Moves.refl (hub : HubState) (new : Attachment → Prop) : Moves hub hub new [] := (Releases.refl hub).moves new

theorem Moves.of_channels (hub : HubState) (channels : BTreeMap ConnectionId Channel) (new : Attachment → Prop) :
    Moves hub { hub with channels } new [] := (Releases.of_channels hub channels).moves new

theorem Moves.evictedOk (h : Moves hub hub' new out) (hok : EvictedOk hub) : EvictedOk hub' := by
  intro c a ha
  rcases h.evicted c a ha with ha | ⟨-, hnone⟩
  · cases hc : hub'.connections[c]? with
    | none => rfl
    | some entry' =>
      obtain ⟨entry, hentry, -⟩ := h.session c entry' hc
      rw [hok c a ha] at hentry
      cases hentry
  · exact hnone

theorem Moves.holds (h : Moves hub hub' new out) {a : Attachment} (ha : hub'.Holds a) : hub.Holds a ∨ new a := by
  obtain ⟨c, hc | hc⟩ := ha
  · rcases h.attached c a hc with ha | ha
    · exact .inl ⟨c, .inl ha⟩
    · exact .inr ha
  · rcases h.evicted c a hc with ha | ⟨ha, -⟩
    · exact .inl ⟨c, .inr ha⟩
    · exact .inl ⟨c, .inl ha⟩

/-- A connection gets a new entry after others were released. -/
theorem Releases.moves_insert {hub₁ : HubState} {entry next : ConnectionEntry} (h : Releases hub hub₁ out)
    (hc : hub₁.connections[c]? = some entry) (hconnections : hub'.connections = hub₁.connections.insert c next)
    (hevicted : hub'.evictedAttachments = hub₁.evictedAttachments) (hsession : next.sessionId = entry.sessionId)
    (hnew : ∀ a, next.attachment = some a → new a) (hindexed : Indexed hub → Indexed hub') :
    Moves hub hub' new out where
  indexed := hindexed
  session d entry' hentry := by
    rw [hconnections, BTreeMap.getElem?_insert] at hentry
    split at hentry
    · rename_i hd
      cases hentry
      subst hd
      rcases h.kept c with hk | hk
      · exact ⟨entry, hk ▸ hc, hsession.symm⟩
      · rw [hk] at hc
        cases hc
    · exact (h.moves new).session d entry' hentry
  attached d a ha := by
    obtain ⟨e, he, hattachment⟩ := attachmentOf_some.mp ha
    rw [hconnections, BTreeMap.getElem?_insert] at he
    split at he
    · cases he
      exact .inr (hnew a hattachment)
    · exact .inl (h.attached (attachmentOf_some.mpr ⟨e, he, hattachment⟩))
  evicted d a ha := by
    rw [hevicted] at ha
    rcases h.evicted d a ha with ha | ⟨ha, hnone⟩
    · exact .inl ha
    · refine .inr ⟨ha, ?_⟩
      have hd : c ≠ d := by
        rintro rfl
        rw [hnone] at hc
        cases hc
      rw [hconnections, BTreeMap.getElem?_insert, if_neg hd]
      exact hnone
  out a ha := (h.moves new).out a ha

theorem attach_moves (hi : Indexed hub) {roomId : RoomId} {code : RoomCode} {peerId : PeerId}
    {order : List ConnectionId} (horder : order.Perm (hub.attachConflicts c roomId peerId))
    (h : hub.attach c roomId code peerId order = .ok (out, hub')) :
    Moves hub hub' (fun a => a.roomId = roomId ∧ a.roomCode = code ∧ a.peerId = peerId) out := by
  obtain ⟨entry, hub₁, -, hreleases, hc₁, hconnections, hevicted, -, -, hindexed⟩ := attach_ok hi horder h
  refine hreleases.moves_insert hc₁ hconnections hevicted rfl ?_ fun _ => hindexed
  rintro _ ⟨⟩
  exact ⟨rfl, rfl, rfl⟩

theorem watchJoin_moves (hi : Indexed hub) {roomId : RoomId} (h : hub.watchJoin c roomId = .ok (out, hub')) :
    Moves hub hub' new out := by
  obtain ⟨entry, hub₁, -, hreleases, hc₁, hconnections, hevicted, -, hindexed⟩ := watchJoin_ok hi h
  exact hreleases.moves_insert hc₁ hconnections hevicted rfl nofun fun _ => hindexed

theorem detach_moves {attachment : Option Attachment} (h : hub.detach c = .ok (attachment, hub')) :
    Moves hub hub' new attachment.toList := by
  obtain ⟨entry, hc, rfl, hconnections, hevicted, -, hindexed⟩ := detach_ok h
  refine Moves.of_out ((Releases.refl hub).moves_insert hc hconnections hevicted rfl nofun hindexed) fun a ha => ?_
  exact ⟨c, .inl (attachmentOf_some.mpr ⟨entry, hc, Option.mem_toList.mp ha⟩)⟩

theorem unregister_moves {attachment : Option Attachment} (h : hub.unregister c = (attachment, hub')) :
    Moves hub hub' new attachment.toList := by
  obtain ⟨hconnections, -, hresult, -, hevicted, hindexed⟩ := unregister_spec hub c
  rw [h] at hconnections hresult hevicted hindexed
  dsimp only at hconnections hresult hevicted hindexed
  refine ⟨hindexed, fun d entry' hentry => ?_, fun d a ha => ?_, fun d a ha => .inl (hevicted d a ha), fun a ha => ?_⟩
  · rw [hconnections, BTreeMap.getElem?_erase] at hentry
    split at hentry
    · cases hentry
    · exact ⟨entry', hentry, rfl⟩
  · obtain ⟨e, he, hattachment⟩ := attachmentOf_some.mp ha
    rw [hconnections, BTreeMap.getElem?_erase] at he
    split at he
    · cases he
    · exact .inl (attachmentOf_some.mpr ⟨e, he, hattachment⟩)
  · rw [hresult, Option.mem_toList, Option.or_eq_some_iff] at ha
    rcases ha with ha | ⟨-, ha⟩
    · exact ⟨c, .inl ha⟩
    · exact ⟨c, .inr ha⟩

theorem send_moves {outbound : Outbound} {result : Except HubError Unit} (h : hub.send c outbound = (result, hub')) :
    Moves hub hub' new [] := by
  obtain ⟨released, hreleases⟩ := (send_spec hub c outbound).1
  rw [h] at hreleases
  exact (hreleases.moves new).of_out fun a ha => absurd ha List.not_mem_nil

theorem sendToPeer_moves {toPeerId : PeerId} {message : ServerRealtimeMessage} {result : Except HubError Unit}
    (h : hub.sendToPeer c toPeerId message = (result, hub')) : Moves hub hub' new [] := by
  obtain ⟨released, hreleases⟩ := (sendToPeer_spec hub c toPeerId message).1
  rw [h] at hreleases
  exact (hreleases.moves new).of_out fun a ha => absurd ha List.not_mem_nil

end HubState

/-! ## Tasks -/

/-- The attachment that a socket has committed and not yet given to the hub. -/
def Socket.attaching (socket : Socket) : Option Attachment :=
  match socket.point with
  | .attachHub attaching => some
    { roomId := attaching.mutation.room.id, roomCode := attaching.code, sessionId := socket.session.id
      peerId := attaching.peerId }
  | _ => none

/-- The attachments that a request keeps for its cleanup. -/
def Request.held (request : Request) : List Attachment :=
  match request.point with
  | .leaveDisconnect _ cleanup => cleanup
  | _ => []

/-- The attachments that the maintenance keeps for its cleanup. -/
def Maintenance.held : Maintenance → List Attachment
  | .disconnectRoom _ _ cleanup _ => cleanup
  | _ => []

def Work.Ok (server : Server) (n : Nat) : Work → Prop
  | .socket client => server.Known client.session ∧
    (∀ entry, server.hub.connections[n]? = some entry → entry.sessionId = client.session.id) ∧
    ∀ a, client.attaching = some a → server.Proper a
  | .request handler => server.Known handler.session ∧ ∀ a ∈ handler.held, server.Proper a
  | .maintenance pass => ∀ a ∈ pass.held, server.Proper a

structure Task.Ok (server : Server) (n : Nat) (task : Task) : Prop where
  pending : ∀ a ∈ task.cleanup.pending, server.Proper a
  work : task.work.Ok server n

namespace Server

/-- The part of `Sane` that speaks of the server alone. -/
structure Ok (server : Server) : Prop where
  rooms : RoomsOk server.rooms
  sessions : SessionsOk server.sessions
  indexed : server.hub.Indexed
  evicted : server.hub.EvictedOk
  proper : ∀ a, server.hub.Holds a → server.Proper a

theorem Ok.known {server : Server} (h : server.Ok) {sessionId : SessionId} {session : Session}
    (hsession : server.sessions[sessionId]? = some session) : server.Known session := by
  rw [Known, displayName, h.sessions sessionId session hsession, hsession, Option.map_some]

/-- What a step of a task can do to the server, with the attachments that it leaves to the cleanup. -/
structure Steps (server server' : Server) (out : List Attachment) : Prop where
  extends_ : Extends server server'
  sessions : SessionsOk server.sessions → SessionsOk server'.sessions
  hub : ∃ new : Attachment → Prop, server.hub.Moves server'.hub new out ∧ ∀ a, new a → server'.Proper a

variable {server server' : Server} {out : List Attachment}

theorem Steps.refl (server : Server) : Steps server server [] :=
  ⟨.refl server, id, fun _ => False, .refl _ _, fun _ => False.elim⟩

theorem Steps.of_hub {hub : HubState} {new : Attachment → Prop} (h : server.hub.Moves hub new out)
    (hnew : ∀ a, new a → server.Proper a) : Steps server { server with hub } out :=
  ⟨.of_same rfl rfl, id, new, h, hnew⟩

theorem Steps.ok (h : Steps server server' out) (hok : server.Ok) : server'.Ok := by
  obtain ⟨new, hmoves, hnew⟩ := h.hub
  refine ⟨h.extends_.rooms hok.rooms, h.sessions hok.sessions, hmoves.indexed hok.indexed,
    hmoves.evictedOk hok.evicted, fun a ha => ?_⟩
  rcases hmoves.holds ha with ha | ha
  · exact h.extends_.hasRoom (hok.proper a ha)
  · exact hnew a ha

theorem Steps.out_proper (h : Steps server server' out) (hok : server.Ok) : ∀ a ∈ out, server'.Proper a := by
  obtain ⟨new, hmoves, -⟩ := h.hub
  exact fun a ha => h.extends_.hasRoom (hok.proper a (hmoves.out a ha))

/-- A step of one task leaves the others right. -/
theorem Steps.task (h : Steps server server' out) {n : Nat} {task : Task} (htask : task.Ok server n) :
    task.Ok server' n := by
  obtain ⟨new, hmoves, -⟩ := h.hub
  refine ⟨fun a ha => h.extends_.hasRoom (htask.pending a ha), ?_⟩
  have hwork := htask.work
  cases hw : task.work with
  | socket client =>
    rw [hw] at hwork
    obtain ⟨hknown, hsession, hattaching⟩ := hwork
    refine ⟨h.extends_.known hknown, fun entry' hentry => ?_, fun a ha => h.extends_.hasRoom (hattaching a ha)⟩
    obtain ⟨entry, hentry, hsame⟩ := hmoves.session n entry' hentry
    rw [← hsame]
    exact hsession entry hentry
  | request handler =>
    rw [hw] at hwork
    exact ⟨h.extends_.known hwork.1, fun a ha => h.extends_.hasRoom (hwork.2 a ha)⟩
  | maintenance pass =>
    rw [hw] at hwork
    exact fun a ha => h.extends_.hasRoom (hwork a ha)

theorem Broadcasts.steps {event : Broadcast} {order : List ConnectionId}
    (h : Broadcasts server event order out server') : Steps server server' out := by
  obtain ⟨-, rfl, rfl⟩ := h
  exact ⟨.of_same rfl rfl, id, fun _ => False,
    (HubState.broadcastEach_spec event.message order server.hub).moves _, fun _ => False.elim⟩

theorem Disconnects.steps {roomId : RoomId} {order : List ConnectionId} {notices : List Outbound}
    (h : Disconnects server roomId order notices out server') : Steps server server' out := by
  obtain ⟨-, rfl, rfl⟩ := h
  exact Steps.of_hub ((HubState.evictEach_spec notices order server.hub).1.moves fun _ => False) fun _ => False.elim

theorem Applies.steps {code : RoomCode} {command : RoomCommand} {mutation : RoomMutation}
    (h : Applies server code command mutation server') : Steps server server' [] := by
  refine ⟨h.extends, ?_, fun _ => False, ?_, fun _ => False.elim⟩
  · cases h <;> exact id
  · rw [h.hub]
    exact .refl _ _

end Server

open Server

variable {server server' : Server} {choice : Choice} {out : List Attachment} {n : Nat}

theorem Cleanup.Acts.steps {cleanup cleanup' : Cleanup} (h : Cleanup.Acts cleanup choice server server' cleanup')
    (hok : server.Ok) (hpending : ∀ a ∈ cleanup.pending, server.Proper a) :
    (∃ out, Steps server server' out) ∧ ∀ a ∈ cleanup'.pending, server'.Proper a := by
  have hpop : ∀ a ∈ cleanup.pending.dropLast, server.Proper a := fun a ha => hpending a (List.mem_of_mem_dropLast ha)
  cases h with
  | announced _ hbroadcast =>
    refine ⟨⟨_, hbroadcast.steps⟩, fun a ha => ?_⟩
    rcases List.mem_append.mp ha with ha | ha
    · exact hbroadcast.steps.extends_.hasRoom (hpending a ha)
    · exact hbroadcast.steps.out_proper hok a ha
  | seen => exact ⟨⟨_, .refl _⟩, hpop⟩
  | failed => exact ⟨⟨_, .refl _⟩, hpop⟩
  | unchanged => exact ⟨⟨_, .refl _⟩, hpop⟩
  | detached _ _ hroom hhandle =>
    have happlies := Applies.changed hroom hhandle
    exact ⟨⟨_, happlies.steps⟩, fun a ha => happlies.extends.hasRoom (hpop a ha)⟩

theorem Socket.fail_attaching (socket : Socket) (error : SocketCommandError) : (socket.fail error).attaching = none :=
  rfl

theorem Socket.announceAttached_attaching (socket : Socket) (attaching : Attaching) :
    (socket.announceAttached attaching).attaching = none := by
  unfold announceAttached
  split <;> rfl

theorem Socket.attachSent_attaching (socket : Socket) (attaching : Attaching) :
    (socket.attachSent attaching).attaching = none := by
  unfold attachSent
  split
  · rfl
  · exact socket.announceAttached_attaching attaching

theorem Socket.watchSent_attaching (socket : Socket) (watching : Watching) (snapshot : RoomBootstrapResponse) :
    (socket.watchSent watching snapshot).attaching = none := by
  unfold watchSent
  split <;> rfl

theorem Socket.announceAttached_session (socket : Socket) (attaching : Attaching) :
    (socket.announceAttached attaching).session = socket.session := by
  unfold announceAttached
  split <;> rfl

theorem Socket.Sends.socket {socket socket' : Socket} {message : ServerRealtimeMessage}
    (h : Socket.Sends socket message socket') : socket'.session = socket.session ∧ socket'.attaching = none := by
  cases h with
  | attached =>
    refine ⟨?_, socket.attachSent_attaching _⟩
    unfold Socket.attachSent
    split
    · rfl
    · exact socket.announceAttached_session _
  | attachSnapshot => exact ⟨socket.announceAttached_session _, socket.announceAttached_attaching _⟩
  | watching =>
    refine ⟨?_, socket.watchSent_attaching _ _⟩
    unfold Socket.watchSent
    split <;> rfl
  | watchSnapshot => exact ⟨rfl, rfl⟩

theorem Socket.Reads.socket {socket socket' : Socket} (h : Socket.Reads socket n choice server socket') :
    socket'.session = socket.session ∧ socket'.attaching = none := by
  cases h <;> exact ⟨rfl, rfl⟩

theorem Socket.Acts.steps {socket socket' : Socket} (h : Socket.Acts n choice server socket server' out socket')
    (hok : server.Ok) (hwork : (Work.socket socket).Ok server n) :
    Steps server server' out ∧ (Work.socket socket').Ok server' n := by
  obtain ⟨hknown, hsession, hattaching⟩ := hwork
  -- once the server step is known, only the attachment in flight is left
  have hrest : ∀ {server' : Server} {out : List Attachment} {socket' : Socket}, Steps server server' out →
      socket'.session = socket.session → (∀ a, socket'.attaching = some a → server'.Proper a) →
      Steps server server' out ∧ (Work.socket socket').Ok server' n := by
    intro server' out socket' hsteps hs ha
    obtain ⟨new, hmoves, -⟩ := hsteps.hub
    refine ⟨hsteps, ?_, fun entry' hentry => ?_, ha⟩
    · rw [hs]
      exact hsteps.extends_.known hknown
    · obtain ⟨entry, hentry, hsame⟩ := hmoves.session n entry' hentry
      rw [← hsame, hs]
      exact hsession entry hentry
  have hnone : ∀ a : Attachment, False → server.Proper a := fun _ => False.elim
  cases h with
  | refused => exact hrest (.refl _) rfl nofun
  | read hread =>
    obtain ⟨hs, ha⟩ := hread.socket
    exact hrest (.refl _) hs (by rw [ha]; nofun)
  | committed hpoint happlies =>
    refine hrest happlies.steps rfl ?_
    rintro _ ⟨⟩
    exact ⟨_, happlies.stored, rfl⟩
  | attached hpoint horder hattach =>
    refine hrest (.of_hub (HubState.attach_moves hok.indexed horder hattach) ?_) rfl nofun
    rintro a ⟨hroom, hcode, -⟩
    have := hattaching _ (by rw [Socket.attaching, hpoint])
    rw [Server.Proper, hroom, hcode]
    exact this
  | watched hpoint hwatch =>
    exact hrest (.of_hub (HubState.watchJoin_moves hok.indexed hwatch) hnone) rfl nofun
  | sent hsends hsend =>
    obtain ⟨hs, ha⟩ := hsends.socket
    exact hrest (.of_hub (HubState.send_moves hsend) hnone) hs (by rw [ha]; nofun)
  | notSent hsends hsend => exact hrest (.of_hub (HubState.send_moves hsend) hnone) rfl nofun
  | announced hpoint hbroadcast => exact hrest hbroadcast.steps rfl nofun
  | detached hpoint hdetach =>
    exact hrest (.of_hub (HubState.detach_moves hdetach) hnone) rfl nofun
  | signalled hpoint hsend hsocket =>
    rcases hsocket with rfl | ⟨error, rfl⟩
    · exact hrest (.of_hub (HubState.sendToPeer_moves hsend) hnone) rfl nofun
    · exact hrest (.of_hub (HubState.sendToPeer_moves hsend) hnone) rfl nofun
  | replied hpoint hsend =>
    refine hrest (.of_hub (HubState.send_moves hsend) hnone) rfl ?_
    split <;> nofun
  | unregistered hpoint hunregister =>
    exact hrest (.of_hub (HubState.unregister_moves hunregister) hnone) rfl nofun

theorem Request.Acts.steps {request request' : Request} (h : Request.Acts choice server request server' out request')
    (hok : server.Ok) (hwork : (Work.request request).Ok server n) :
    (∃ out, Steps server server' out) ∧ (∀ a ∈ out, server'.Proper a) ∧ (Work.request request').Ok server' n := by
  obtain ⟨hknown, hheld⟩ := hwork
  have hcommit : ∀ {code command mutation} {server' : Server} {point : RequestPoint},
      Applies server code command mutation server' → (request.goto point).held = [] →
      (∃ out, Steps server server' out) ∧ (∀ a ∈ ([] : List Attachment), server'.Proper a) ∧
        (Work.request (request.goto point)).Ok server' n := by
    intro code command mutation server' point happlies hpoint
    refine ⟨⟨_, happlies.steps⟩, fun a ha => absurd ha List.not_mem_nil, happlies.extends.known hknown, fun a ha => ?_⟩
    rw [hpoint] at ha
    exact absurd ha List.not_mem_nil
  have hkeep : ∀ {room : Room} {cleanup : List Attachment}, request.point = .leaveDisconnect room cleanup →
      ∀ a ∈ cleanup, server.Proper a := fun hpoint a ha => hheld a (by rw [Request.held, hpoint]; exact ha)
  cases h with
  | answered => exact ⟨⟨_, .refl _⟩, fun a ha => absurd ha List.not_mem_nil, hknown, fun a ha => absurd ha List.not_mem_nil⟩
  | joining => exact ⟨⟨_, .refl _⟩, fun a ha => absurd ha List.not_mem_nil, hknown, fun a ha => absurd ha List.not_mem_nil⟩
  | joinUnread _ happlies => exact hcommit happlies rfl
  | joined _ happlies => exact hcommit happlies rfl
  | decided _ happlies => exact hcommit happlies rfl
  | left _ happlies => exact hcommit happlies rfl
  | announced _ hbroadcast =>
    exact ⟨⟨_, hbroadcast.steps⟩, hbroadcast.steps.out_proper hok, hbroadcast.steps.extends_.known hknown,
      fun a ha => absurd ha List.not_mem_nil⟩
  | leaveAnnounced _ hbroadcast =>
    exact ⟨⟨_, hbroadcast.steps⟩, fun a ha => absurd ha List.not_mem_nil, hbroadcast.steps.extends_.known hknown,
      hbroadcast.steps.out_proper hok⟩
  | roomDisconnected hpoint _ hdisconnect =>
    refine ⟨⟨_, hdisconnect.steps⟩, fun a ha => ?_, hdisconnect.steps.extends_.known hknown,
      fun a ha => absurd ha List.not_mem_nil⟩
    rcases List.mem_append.mp ha with ha | ha
    · exact hdisconnect.steps.extends_.hasRoom (hkeep hpoint a ha)
    · exact hdisconnect.steps.out_proper hok a ha
  | @sessionDisconnected room cleanup disconnected hub hpoint _ hdisconnect =>
    have hreleases := (HubState.evictEach_spec [.close 4003 "room membership ended"]
      server.hub.sessionRoutes[(⟨room.id, request.session.id⟩ : Route "session id")]?.toList server.hub).1
    have hdisconnect : HubState.evictEach _ _ server.hub = (disconnected, hub) := hdisconnect
    rw [hdisconnect] at hreleases
    have hsteps := Steps.of_hub (hreleases.moves fun _ => False) fun _ => False.elim
    refine ⟨⟨_, hsteps⟩, fun a ha => ?_, hknown, fun a ha => absurd ha List.not_mem_nil⟩
    rcases List.mem_append.mp ha with ha | ha
    · exact hkeep hpoint a ha
    · exact hsteps.out_proper hok a ha

theorem Maintenance.Passes.held {maintenance maintenance' : Maintenance}
    (h : Maintenance.Passes server maintenance maintenance') : maintenance'.held = [] := by
  cases h <;> rfl

theorem Maintenance.Acts.steps {maintenance maintenance' : Maintenance}
    (h : Maintenance.Acts choice server maintenance server' out maintenance') (hok : server.Ok)
    (hheld : ∀ a ∈ maintenance.held, server.Proper a) :
    (∃ out, Steps server server' out) ∧ (∀ a ∈ out, server'.Proper a) ∧ ∀ a ∈ maintenance'.held, server'.Proper a := by
  have hnil : ∀ {server : Server}, ∀ a ∈ ([] : List Attachment), server.Proper a := fun a ha => absurd ha List.not_mem_nil
  cases h with
  | passed hpass => exact ⟨⟨_, .refl _⟩, hnil, by rw [hpass.held]; exact hnil⟩
  | roomExpired happlies => exact ⟨⟨_, happlies.steps⟩, hnil, hnil⟩
  | roomAnnounced hbroadcast => exact ⟨⟨_, hbroadcast.steps⟩, hnil, hbroadcast.steps.out_proper hok⟩
  | roomDisconnected hdisconnect =>
    refine ⟨⟨_, hdisconnect.steps⟩, fun a ha => ?_, hnil⟩
    rcases List.mem_append.mp ha with ha | ha
    · exact hdisconnect.steps.extends_.hasRoom (hheld a ha)
    · exact hdisconnect.steps.out_proper hok a ha
  | requestExpired happlies => exact ⟨⟨_, happlies.steps⟩, hnil, hnil⟩
  | snapshotRead => exact ⟨⟨_, .refl _⟩, hnil, hnil⟩
  | snapshotAnnounced hbroadcast => exact ⟨⟨_, hbroadcast.steps⟩, hbroadcast.steps.out_proper hok, hnil⟩
  | sessionsFailed => exact ⟨⟨_, .refl _⟩, hnil, hnil⟩
  | sessionsExpired =>
    exact ⟨⟨[], expireDueSessions_extends hok.sessions _ _, fun h => expireDueSessions_ok h _ _, fun _ => False,
      .refl _ _, fun _ => False.elim⟩, hnil, hnil⟩

theorem Task.Acts.steps {task task' : Task} (h : Task.Acts n choice server task server' task') (hok : server.Ok)
    (htask : task.Ok server n) : (∃ out, Steps server server' out) ∧ task'.Ok server' n := by
  cases h with
  | cleanup _ hacts =>
    obtain ⟨⟨out, hsteps⟩, hpending⟩ := hacts.steps hok htask.pending
    exact ⟨⟨out, hsteps⟩, hpending, (hsteps.task htask).work⟩
  | socket _ hacts =>
    obtain ⟨hsteps, hwork⟩ := hacts.steps hok htask.work
    exact ⟨⟨_, hsteps⟩, hsteps.out_proper hok, hwork⟩
  | request _ hacts =>
    obtain ⟨hsteps, hout, hwork⟩ := hacts.steps hok htask.work
    exact ⟨hsteps, hout, hwork⟩
  | maintenance _ hacts =>
    obtain ⟨hsteps, hout, hwork⟩ := hacts.steps hok htask.work
    exact ⟨hsteps, hout, hwork⟩

/-! ## Worlds -/

structure World.Sane (world : World) : Prop where
  server : world.server.Ok
  task : ∀ (n : Nat) (task : Task), world.tasks[n]? = some task → task.Ok world.server n
  /-- A connection of the hub, or one that was evicted, has its task. -/
  connected : ∀ (n : Nat) entry, world.server.hub.connections[n]? = some entry → ∃ task, world.tasks[n]? = some task
  evicted : ∀ (n : Nat) a, world.server.hub.evictedAttachments[n]? = some a → ∃ task, world.tasks[n]? = some task

namespace World

variable {world world' : World} {label : Label}

theorem Sane.initial (queueCapacity joinRequestTtl : Nat) : (World.initial queueCapacity joinRequestTtl).Sane := by
  have hempty : ∀ {K V : Type} [Ord K] [Std.TransOrd K] [Std.LawfulEqOrd K] (k : K), (∅ : BTreeMap K V)[k]? = none :=
    fun k => Std.ExtTreeMap.getElem?_empty
  refine ⟨⟨⟨fun _ _ h => ?_, fun _ _ _ _ h => ?_⟩, fun _ _ h => ?_, HubState.new_indexed _, fun _ _ h => ?_, ?_⟩,
    fun _ _ h => ?_, fun _ _ h => ?_, fun _ _ h => ?_⟩
  all_goals try exact absurd (h.symm.trans (hempty _)) nofun
  rintro a ⟨c, h | h⟩
  · obtain ⟨e, he, -⟩ := HubState.attachmentOf_some.mp h
    exact absurd (he.symm.trans (hempty _)) nofun
  · exact absurd (h.symm.trans (hempty _)) nofun

/-- A step that leaves the tasks as they are. -/
theorem Sane.of_steps (h : world.Sane) {server' : Server} {out : List Attachment}
    (hsteps : Server.Steps world.server server' out) : (world.setServer server').Sane := by
  obtain ⟨new, hmoves, -⟩ := hsteps.hub
  refine ⟨hsteps.ok h.server, fun n task htask => hsteps.task (h.task n task htask), fun n entry' hentry => ?_,
    fun n a ha => ?_⟩
  · obtain ⟨entry, hentry, -⟩ := hmoves.session n entry' hentry
    exact h.connected n entry hentry
  · rcases hmoves.evicted n a ha with ha | ⟨ha, -⟩
    · exact h.evicted n a ha
    · obtain ⟨entry, hentry, -⟩ := HubState.attachmentOf_some.mp ha
      exact h.connected n entry hentry

/-- A task that is new or goes on. -/
theorem Sane.of_task (h : world.Sane) {n : Nat} {task : Task} (htask : task.Ok world.server n) :
    ({ world with tasks := world.tasks.insert n task } : World).Sane := by
  have hkept : ∀ m : Nat, (∃ task', world.tasks[m]? = some task') → ∃ task', (world.tasks.insert n task)[m]? = some task' := by
    rintro m ⟨task', hm⟩
    rw [BTreeMap.getElem?_insert]
    split
    · exact ⟨task, rfl⟩
    · exact ⟨task', hm⟩
  refine ⟨h.server, fun m task' hm => ?_, fun m entry hm => hkept m (h.connected m entry hm),
    fun m a hm => hkept m (h.evicted m a hm)⟩
  have hm : (world.tasks.insert n task)[m]? = some task' := hm
  rw [BTreeMap.getElem?_insert] at hm
  split at hm
  · rename_i hn
    cases hm
    exact hn ▸ htask
  · exact h.task m task' hm

theorem Writes.channels {hub hub' : HubState} (h : Writes hub label hub') :
    ∃ channels, hub' = { hub with channels } := by
  cases h with
  | took n => exact HubState.take_channels hub n
  | closed n => exact HubState.closeReceiver_channels hub n

theorem Wakes.socket {n : Nat} {socket socket' : Socket} (h : Wakes n socket label socket')
    (hpoint : socket.point = .listening) : socket'.session = socket.session ∧ socket'.attaching = none := by
  obtain ⟨hsession, hstarts⟩ := h.starts hpoint
  refine ⟨hsession, ?_⟩
  unfold Socket.attaching
  generalize socket'.point = point at hstarts ⊢
  cases hstarts <;> rfl

/-- A new connection. -/
theorem Sane.connect (h : world.Sane) {n : Nat} {session : Session} (hfresh : world.tasks[n]? = none)
    (hconnection : world.server.hub.connections[n]? = none) (hknown : world.server.Known session) :
    ((world.setServer { world.server with hub := world.server.hub.register n session.id }).setTask n
      (.socket (.opened session))).Sane := by
  have hlookup : ∀ m : Nat, (world.server.hub.register n session.id).connections[m]? =
      if n = m then some { sessionId := session.id, attachment := none, joinWatch := none }
      else world.server.hub.connections[m]? := fun m => BTreeMap.getElem?_insert ..
  have hattached : ∀ m a, (world.server.hub.register n session.id).attachmentOf m = some a →
      world.server.hub.attachmentOf m = some a := by
    intro m a ha
    obtain ⟨e, he, hattachment⟩ := HubState.attachmentOf_some.mp ha
    rw [hlookup] at he
    split at he
    · cases he
      cases hattachment
    · exact HubState.attachmentOf_some.mpr ⟨e, he, hattachment⟩
  have hserver : ({ world.server with hub := world.server.hub.register n session.id } : Server).Ok := by
    refine ⟨h.server.rooms, h.server.sessions, HubState.register_indexed h.server.indexed hconnection session.id,
      fun m a ha => ?_, ?_⟩
    · show (world.server.hub.register n session.id).connections[m]? = none
      rw [hlookup, if_neg]
      · exact h.server.evicted m a ha
      · rintro rfl
        obtain ⟨task, htask⟩ := h.evicted n a ha
        rw [hfresh] at htask
        cases htask
    · rintro a ⟨m, ha | ha⟩
      · exact h.server.proper a ⟨m, .inl (hattached m a ha)⟩
      · exact h.server.proper a ⟨m, .inr ha⟩
  have htasks : ∀ m (task : Task), m ≠ n → task.Ok world.server m →
      task.Ok { world.server with hub := world.server.hub.register n session.id } m := by
    intro m task hm htask
    refine ⟨htask.pending, ?_⟩
    have hwork := htask.work
    cases hw : task.work with
    | socket client =>
      rw [hw] at hwork
      refine ⟨hwork.1, fun entry hentry => hwork.2.1 entry ?_, hwork.2.2⟩
      rwa [hlookup, if_neg (Ne.symm hm)] at hentry
    | request handler => rw [hw] at hwork; exact hwork
    | maintenance pass => rw [hw] at hwork; exact hwork
  have htask : ∀ (m : Nat) (task : Task), (world.tasks.insert n (.of (.socket (.opened session))))[m]? = some task →
      task.Ok { world.server with hub := world.server.hub.register n session.id } m := by
    intro m task hm
    rw [BTreeMap.getElem?_insert] at hm
    split at hm
    · rename_i hn
      cases hm
      subst hn
      refine ⟨fun a ha => absurd ha List.not_mem_nil, hknown, fun entry hentry => ?_, nofun⟩
      rw [hlookup, if_pos rfl] at hentry
      cases hentry
      rfl
    · rename_i hn
      exact htasks m task (Ne.symm hn) (h.task m task hm)
  have hkept : ∀ m : Nat, n = m ∨ (∃ task, world.tasks[m]? = some task) →
      ∃ task, (world.tasks.insert n (.of (.socket (.opened session))))[m]? = some task := by
    intro m hm
    rw [BTreeMap.getElem?_insert]
    split
    · exact ⟨_, rfl⟩
    · rename_i hn
      exact hm.resolve_left hn
  refine ⟨hserver, htask, fun m entry hm => hkept m ?_, fun m a hm => hkept m (.inr (h.evicted m a hm))⟩
  have hm : (world.server.hub.register n session.id).connections[m]? = some entry := hm
  rw [hlookup] at hm
  split at hm
  · rename_i hn
    exact .inl hn
  · exact .inr (h.connected m entry hm)

theorem Sane.step (h : world.Sane) (hstep : World.Step world label world') : world'.Sane := by
  cases World.step_acts hstep with
  | @createSession session hfresh =>
    have hlookup : ∀ id : SessionId, id ≠ session.id →
        (world.server.sessions.insert session.id session)[id]? = world.server.sessions[id]? := fun id hid => by
      rw [BTreeMap.getElem?_insert, if_neg (Ne.symm hid)]
    refine @World.Sane.of_steps _ h _ [] ⟨⟨id, fun _ room hroom => ⟨room, hroom, rfl⟩, fun id name hname => ?_⟩,
      fun hok id s hs => ?_, fun _ => False, .refl _ _, fun _ => False.elim⟩
    · have hid : id ≠ session.id := by
        rintro rfl
        rw [Server.displayName, hfresh] at hname
        cases hname
      show ((world.server.sessions.insert session.id session)[id]?).map _ = some name
      rw [hlookup id hid]
      exact hname
    · have hs : (world.server.sessions.insert session.id session)[id]? = some s := hs
      rw [BTreeMap.getElem?_insert] at hs
      split at hs
      · rename_i hid
        cases hs
        exact hid
      · exact hok id s hs
  | @createRoom id code owner now expiresAt room outcome hcode hid hcreate =>
    obtain ⟨hroomId, hroomCode⟩ : room.id = id ∧ room.code = code := by
      unfold Room.create at hcreate
      split at hcreate
      · cases hcreate
      · cases hcreate
        exact ⟨rfl, rfl⟩
    have hlookup : ∀ c : RoomCode, c ≠ code →
        (world.server.rooms.insert code room)[c]? = world.server.rooms[c]? := fun c hc => by
      rw [BTreeMap.getElem?_insert, if_neg (Ne.symm hc)]
    refine @World.Sane.of_steps _ h _ [] ⟨⟨fun hok => ⟨fun c r hr => ?_, fun c c' r r' hr hr' he => ?_⟩, fun c r hr => ?_,
      fun _ _ hname => hname⟩, fun hok => hok, fun _ => False, .refl _ _, fun _ => False.elim⟩
    · have hr : (world.server.rooms.insert code room)[c]? = some r := hr
      rw [BTreeMap.getElem?_insert] at hr
      split at hr
      · rename_i hc
        cases hr
        rw [← hc, hroomCode]
      · exact hok.code c r hr
    · have hr : (world.server.rooms.insert code room)[c]? = some r := hr
      have hr' : (world.server.rooms.insert code room)[c']? = some r' := hr'
      rw [BTreeMap.getElem?_insert] at hr hr'
      split at hr <;> split at hr'
      · rename_i hc hc'
        rw [← hc, ← hc']
      · cases hr
        exact absurd (he.symm.trans hroomId) (hid c' r' hr')
      · cases hr'
        exact absurd (he.trans hroomId) (hid c r hr)
      · exact hok.id c c' r r' hr hr' he
    · have hc : c ≠ code := by
        rintro rfl
        rw [hcode] at hr
        cases hr
      exact ⟨r, (hlookup c hc).trans hr, rfl⟩
  | @connect n sessionId session now hfresh hsession =>
    have hconnection : world.server.hub.connections[n]? = none := by
      cases hc : world.server.hub.connections[n]? with
      | none => rfl
      | some entry =>
        obtain ⟨task, htask⟩ := h.connected n entry hc
        rw [hfresh] at htask
        cases htask
    exact h.connect hfresh hconnection (h.server.known hsession)
  | @request n sessionId session now call hfresh hsession =>
    exact h.of_task ⟨fun a ha => absurd ha List.not_mem_nil, h.server.known hsession,
      fun a ha => absurd ha List.not_mem_nil⟩
  | maintain hfresh =>
    exact h.of_task ⟨fun a ha => absurd ha List.not_mem_nil, fun a ha => absurd ha List.not_mem_nil⟩
  | @woken n label cleanup socket socket' htask hdone hpoint hwakes =>
    obtain ⟨hknown, hsession, -⟩ := (h.task n _ htask).work
    obtain ⟨hs, ha⟩ := hwakes.socket hpoint
    refine h.of_task ⟨fun a ha => absurd ha List.not_mem_nil, ?_, ?_, ?_⟩
    · rw [hs]
      exact hknown
    · rw [hs]
      exact hsession
    · rw [ha]
      nofun
  | written hwrites =>
    obtain ⟨channels, rfl⟩ := hwrites.channels
    exact h.of_steps (.of_hub (.of_channels _ channels fun _ => False) fun _ => False.elim)
  | @ran n choice task task' server' htask hacts =>
    obtain ⟨⟨out, hsteps⟩, hok⟩ := hacts.steps h.server (h.task n task htask)
    exact (h.of_steps hsteps).of_task hok
  | restarted =>
    have hinitial := Sane.initial world.server.hub.queueCapacity 0
    exact ⟨⟨h.server.rooms, h.server.sessions, hinitial.server.indexed, hinitial.server.evicted, fun a ha => by
      obtain ⟨room, hroom, -⟩ := hinitial.server.proper a ha
      exact absurd (hroom.symm.trans Std.ExtTreeMap.getElem?_empty) nofun⟩, fun n task htask =>
      absurd (htask.symm.trans Std.ExtTreeMap.getElem?_empty) nofun, hinitial.connected, hinitial.evicted⟩

/-- **Every reachable world is sane.** -/
theorem Reachable.sane (h : world.Reachable) : world.Sane := by
  obtain ⟨queueCapacity, joinRequestTtl, labels, hrun⟩ := h
  exact hrun.invariant (fun _ _ _ hs hstep => hs.step hstep) (.initial _ _)

end World

end P2PTransmission
