import P2PTransmission.Realtime.Reception
import P2PTransmission.Realtime.Events

/-!
# The feed of a room

A handler broadcasts an event to the connections that are in the room at that moment. A connection that stays in a room through
a run gets every event that is broadcast to the room meanwhile, in the order of the broadcasts, among whatever else is sent to it
(`feed_complete`): an event that its queue cannot take costs it its place.
-/

set_option autoImplicit false

namespace P2PTransmission

namespace HubState

/-- The connection is registered and attached to the room, or watches a request of it. -/
def InRoom (hub : HubState) (c : ConnectionId) (roomId : RoomId) : Prop :=
  ∃ entry place, hub.connections[c]? = some entry ∧ entry.place = some place ∧ place.roomId = roomId

end HubState

open Server (Broadcasts)

variable {n : Nat} {choice : Choice} {server server' : Server} {c : ConnectionId} {room : RoomId}

/-- What was broadcast is unchanged, or the step was a broadcast. -/
theorem Task.Acts.broadcast {task task' : Task} (h : Task.Acts n choice server task server' task') :
    server'.broadcasts = server.broadcasts ∨ ∃ event order out, Broadcasts server event order out server' := by
  cases h with
  | cleanup _ hacts =>
    cases hacts with
    | announced _ hbroadcast => exact .inr ⟨_, _, _, hbroadcast⟩
    | seen | failed | unchanged | detached => exact .inl rfl
  | socket _ hacts =>
    cases hacts with
    | announced _ hbroadcast => exact .inr ⟨_, _, _, hbroadcast⟩
    | committed _ happlies => exact .inl happlies.broadcasts
    | refused | read | attached | watched | sent | notSent | detached | signalled | replied | unregistered =>
      exact .inl rfl
  | request _ hacts =>
    cases hacts with
    | announced _ hbroadcast => exact .inr ⟨_, _, _, hbroadcast⟩
    | leaveAnnounced _ hbroadcast => exact .inr ⟨_, _, _, hbroadcast⟩
    | joinUnread _ happlies => exact .inl happlies.broadcasts
    | joined _ happlies => exact .inl happlies.broadcasts
    | decided _ happlies => exact .inl happlies.broadcasts
    | left _ happlies => exact .inl happlies.broadcasts
    | roomDisconnected _ _ hdisconnect => exact .inl (by rw [hdisconnect.server])
    | answered | joining | sessionDisconnected => exact .inl rfl
  | maintenance _ hacts =>
    cases hacts with
    | roomAnnounced hbroadcast => exact .inr ⟨_, _, _, hbroadcast⟩
    | snapshotAnnounced hbroadcast => exact .inr ⟨_, _, _, hbroadcast⟩
    | roomExpired happlies => exact .inl happlies.broadcasts
    | requestExpired happlies => exact .inl happlies.broadcasts
    | roomDisconnected hdisconnect => exact .inl (by rw [hdisconnect.server])
    | passed | snapshotRead | sessionsFailed | sessionsExpired => exact .inl rfl

namespace World

variable {world world' : World} {label : Label} {labels : List Label}

/-- What was broadcast to the room from one world to another, and what the connection was sent. -/
structure Feeds (world world' : World) (c : ConnectionId) (room : RoomId) : Prop where
  fed : ∃ events sent, world'.server.broadcasts = events ++ world.server.broadcasts ∧
    world'.server.hub.sentTo c = world.server.hub.sentTo c ++ sent ∧
    ((events.filter (·.roomId = room)).reverse.map fun event => Outbound.message event.message).Sublist sent

theorem Feeds.quiet {sent : List Outbound} (hbroadcasts : world'.server.broadcasts = world.server.broadcasts)
    (hsent : world'.server.hub.sentTo c = world.server.hub.sentTo c ++ sent) : Feeds world world' c room :=
  ⟨[], sent, hbroadcasts, hsent, List.nil_sublist _⟩

theorem Feeds.refl (world : World) (c : ConnectionId) (room : RoomId) : Feeds world world c room :=
  .quiet rfl (List.append_nil _).symm

theorem Feeds.trans {world'' : World} (h : Feeds world world' c room) (h' : Feeds world' world'' c room) :
    Feeds world world'' c room := by
  obtain ⟨events, sent, hevents, hsent, hfed⟩ := h.fed
  obtain ⟨events', sent', hevents', hsent', hfed'⟩ := h'.fed
  refine ⟨events' ++ events, sent ++ sent', ?_, ?_, ?_⟩
  · rw [hevents', hevents, List.append_assoc]
  · rw [hsent', hsent, List.append_assoc]
  · rw [List.filter_append, List.reverse_append, List.map_append]
    exact hfed.append hfed'

/-- A task acts, and the connection is in the room afterwards. -/
theorem feeds_of_acts {task task' : Task} (hi : world.server.hub.Indexed)
    (hacts : Task.Acts n choice world.server task world'.server task') (hin : world'.server.hub.InRoom c room) :
    Feeds world world' c room := by
  obtain ⟨new, hnew⟩ := hacts.grows hi c
  rcases hacts.broadcast with hsame | ⟨event, order, out, hbroadcast⟩
  · exact .quiet hsame hnew
  obtain ⟨entry, place, hentry, hplace, hroom⟩ := hin
  have hevents : world'.server.broadcasts = [event] ++ world.server.broadcasts := by
    rw [hbroadcast.server]
    rfl
  by_cases hevent : event.roomId = room
  · obtain ⟨-, hsent⟩ := hbroadcast.received hi hentry hplace (hroom.trans hevent.symm)
    refine ⟨[event], _, hevents, hsent, ?_⟩
    simp [hevent]
  · refine ⟨[event], new, hevents, hnew, ?_⟩
    simp [hevent]

/-- **A step feeds the connections that are in the room afterwards.** -/
theorem Step.feeds (hsane : world.Sane) (h : Step world label world') (hin : world'.server.hub.InRoom c room) :
    Feeds world world' c room := by
  have hnil : world.server.hub.sentTo c = world.server.hub.sentTo c ++ [] := (List.append_nil _).symm
  cases step_acts h with
  | createSession | createRoom => exact .quiet rfl hnil
  | request | maintain => exact .quiet rfl hnil
  | woken => exact .quiet rfl hnil
  | @connect n sessionId session now hnone =>
    obtain ⟨entry, place, hentry, hplace, -⟩ := hin
    have hentry : (world.server.hub.connections.insert n _)[c]? = some entry := hentry
    rw [BTreeMap.getElem?_insert] at hentry
    split at hentry
    · -- a connection that has just been made is in no room
      cases hentry
      cases hplace
    · rename_i hn
      have hsame : HubState.sentTo (world.server.hub.register n session.id) c = world.server.hub.sentTo c ++ [] := by
        simp [HubState.sentTo, HubState.register, BTreeMap.getElem?_insert, hn]
      exact .quiet rfl hsame
  | written hwrites =>
    have hsent := hwrites.sentTo c
    obtain ⟨channels, rfl⟩ := hwrites.channels
    exact .quiet rfl (hsent.trans hnil)
  | ran hrunning hacts => exact feeds_of_acts hsane.server.indexed hacts hin
  | restarted =>
    obtain ⟨entry, place, hentry, -⟩ := hin
    have hentry : (∅ : BTreeMap ConnectionId ConnectionEntry)[c]? = some entry := hentry
    have hnone : some entry = none := hentry.symm.trans Std.ExtTreeMap.getElem?_empty
    cases hnone

/-- A step that leaves the connection in the room. -/
def Staying (c : ConnectionId) (room : RoomId) (world : World) (label : Label) (world' : World) : Prop :=
  Step world label world' ∧ world'.server.hub.InRoom c room

/-- **A connection that stays in a room gets every event of the room, in order.** -/
theorem feed_complete (hreachable : world.Reachable) (hrun : Run (Staying c room) world labels world') :
    ∃ events sent, world'.server.broadcasts = events ++ world.server.broadcasts ∧
      world'.server.hub.sentTo c = world.server.hub.sentTo c ++ sent ∧
      ((events.filter (·.roomId = room)).reverse.map fun event => Outbound.message event.message).Sublist sent := by
  have hfeeds : Feeds world world' c room :=
    hrun.relates (I := Sane) (R := fun before after => Feeds before after c room) (fun world => .refl world c room)
      (fun h h' => h.trans h') (fun _ _ _ hsane hstep => ⟨hsane.step hstep.1, Step.feeds hsane hstep.1 hstep.2⟩)
      hreachable.sane
  exact hfeeds.fed

/-- The owner is attached, and the guest is about to be announced. -/
def guestAnnouncing : List Label :=
  guestLet ++ attaches 3 ownerSession.id "peer_owner" [3] ++ (attaches 4 guestSession.id "peer_guest" [3, 4]).dropLast

theorem feed_complete_attach : ∃ world world', Run (Staying 3 roomId) world [go 4 [3, 4]] world' ∧
    ∃ events sent, world'.server.broadcasts = events ++ world.server.broadcasts ∧
      world'.server.hub.sentTo 3 = world.server.hub.sentTo 3 ++ sent ∧
      ((events.filter (·.roomId = roomId)).reverse.map fun event => Outbound.message event.message).Sublist sent := by
  have hruns : ((World.initial 64 100).runAll guestAnnouncing).isSome = true := by decide +kernel
  obtain ⟨world, hworld⟩ := Option.isSome_iff_exists.mp hruns
  have hplaced : (((World.initial 64 100).runAll guestAnnouncing).bind fun world => world.step (go 4 [3, 4])).map
      (fun world => (world.server.hub.connections[(3 : ConnectionId)]?.bind (·.place)).map (·.roomId)) =
      some (some roomId) := by decide +kernel
  rw [hworld] at hplaced
  obtain ⟨world', hstep, hroom⟩ := Option.map_eq_some_iff.mp hplaced
  obtain ⟨place, hplace, hroom⟩ := Option.map_eq_some_iff.mp hroom
  obtain ⟨entry, hentry, hplace⟩ := Option.bind_eq_some_iff.mp hplace
  have hrun : Run (Staying 3 roomId) world [go 4 [3, 4]] world' := .single ⟨hstep, entry, place, hentry, hplace, hroom⟩
  exact ⟨world, world', hrun, feed_complete ⟨64, 100, guestAnnouncing, run_of_runAll hworld⟩ hrun⟩

end World

end P2PTransmission
