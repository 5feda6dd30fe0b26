import P2PTransmission.Domain.Atomic
import P2PTransmission.Domain.Peers
import P2PTransmission.Foundation.Since

/-!
# Who is in a room

The state of a room is what its history made of it. A receiver is a member exactly if the owner approved a pending
request of it in time and it has not left since (`member_iff`), and a member is online under a peer id exactly if it
attached with it and nothing since took it offline (`online_iff`). A revision below the largest one names one room of a
history (`revision_names_room`).
-/

set_option autoImplicit false

namespace P2PTransmission

namespace Room

variable {room next : Room} {command : RoomCommand} {sessionId : SessionId} {peerId : PeerId}

/-- The session has a membership and has not left. -/
def Present (room : Room) (sessionId : SessionId) : Prop :=
  ∃ state, room.membershipState sessionId = some state ∧ state ≠ .left

/-- The owner approves a pending request of the session, before the request and the room expire. -/
def Admits (room : Room) (command : RoomCommand) (sessionId : SessionId) : Prop :=
  ∃ (requestId : RequestId) (now : Nat) (request : JoinRequest),
    command = .decideJoin room.owner requestId .approve now ∧ room.state = .active ∧ now < room.expiresAt ∧
      room.joinRequests[requestId]? = some request ∧ request.sessionId = sessionId ∧ request.state = .pending ∧
      now < request.expiresAt

/-- A member attaches under the peer id while the room is active. -/
def Connects (room : Room) (command : RoomCommand) (sessionId : SessionId) (peerId : PeerId) : Prop :=
  ∃ now, command = .attach sessionId peerId now ∧ room.state = .active ∧ now < room.expiresAt ∧ Present room sessionId

/-- The member detaches from this peer id, leaves a room that is not its own, or connects under another peer id. -/
def Disconnects (room : Room) (command : RoomCommand) (sessionId : SessionId) (peerId : PeerId) : Prop :=
  command = .detach sessionId peerId ∨ (command = .leave sessionId ∧ sessionId ≠ room.owner) ∨
    ∃ other, other ≠ peerId ∧ Connects room command sessionId other

/-! ## What a command does to the memberships -/

/-- A command has an effect and leaves its memberships, or leaves the room alone. -/
theorem handle_memberships (room : Room) (command : RoomCommand) :
    (∃ next, Effect room command next ∧ ∀ s, (room.handle command).2.membershipState s = next.membershipState s) ∨
      ((room.handle command).2 = room ∧ ∀ next, ¬ Effect room command next) := by
  by_cases h : ∃ next, Effect room command next
  · obtain ⟨next, heffect⟩ := h
    obtain ⟨effected, heffected, hhandle⟩ := heffect.committed
    refine .inl ⟨effected, heffected, fun s => ?_⟩
    rw [hhandle]
    rcases commit_cases effected with hc | hc
    · rw [hc]
      rfl
    · rw [hc]
  · refine .inr ⟨?_, fun next heffect => h ⟨next, heffect⟩⟩
    rcases handle_room room command with he | ⟨next, heffect, -⟩
    · exact he
    · exact absurd ⟨next, heffect⟩ h

theorem Present.membership (h : Present room sessionId) :
    ∃ membership, room.memberships[sessionId]? = some membership ∧ membership.state ≠ .left := by
  obtain ⟨state, hstate, hleft⟩ := h
  obtain ⟨membership, hm, rfl⟩ := Option.map_eq_some_iff.mp hstate
  exact ⟨membership, hm, hleft⟩

theorem present_of_membership {membership : Membership} (hm : room.memberships[sessionId]? = some membership)
    (hleft : membership.state ≠ .left) : Present room sessionId :=
  ⟨membership.state, by rw [membershipState, hm, Option.map_some], hleft⟩

theorem present_setMembership (room : Room) (changed sessionId : SessionId) (membership : Membership) :
    Present (room.setMembership changed membership) sessionId ↔
      (changed = sessionId ∧ membership.state ≠ .left) ∨ (changed ≠ sessionId ∧ Present room sessionId) := by
  unfold Present
  rw [membershipState_setMembership]
  by_cases he : changed = sessionId
  · simp [he]
  · simp [he]

theorem online_setMembership (room : Room) (changed sessionId : SessionId) (membership : Membership) :
    (room.setMembership changed membership).membershipState sessionId = some (.online peerId) ↔
      (changed = sessionId ∧ membership.state = .online peerId) ∨
        (changed ≠ sessionId ∧ room.membershipState sessionId = some (.online peerId)) := by
  rw [membershipState_setMembership]
  by_cases he : changed = sessionId
  · simp [he]
  · simp [he]

/-! ## Members -/

theorem Admits.effect (h : Admits room command sessionId) : ∃ next, Effect room command next := by
  obtain ⟨requestId, now, request, rfl, hactive, hlive, hr, -, hp, hnow⟩ := h
  exact ⟨_, .approved hactive hlive hnow hr hp⟩

/-- A command that is no approval and no `Leave` of the session, and keeps it where it was. -/
theorem present_unmoved (hsame : Present next sessionId ↔ Present room sessionId)
    (hadmits : ¬ Admits room command sessionId) (hleave : command ≠ .leave sessionId) :
    Present next sessionId ↔ Admits room command sessionId ∨ Present room sessionId ∧ ¬ command = .leave sessionId := by
  constructor
  · intro h
    exact .inr ⟨hsame.mp h, hleave⟩
  · rintro (h | ⟨h, -⟩)
    · exact absurd h hadmits
    · exact hsame.mpr h

/-- A membership that changes its state without leaving. -/
theorem present_kept {changed : SessionId} {membership updated : Membership}
    (hm : room.memberships[changed]? = some membership) (hleft : membership.state ≠ .left)
    (hupdated : updated.state ≠ .left) :
    Present (room.setMembership changed updated) sessionId ↔ Present room sessionId := by
  rw [present_setMembership]
  by_cases he : changed = sessionId
  · subst he
    exact iff_of_true (.inl ⟨rfl, hupdated⟩) (present_of_membership hm hleft)
  · simp [he]

theorem Effect.present_iff (heffect : Effect room command next) (howner : sessionId ≠ room.owner) :
    Present next sessionId ↔
      Admits room command sessionId ∨ Present room sessionId ∧ ¬ command = .leave sessionId := by
  cases heffect with
  | requested | rejected | requestExpired | expired =>
    refine present_unmoved Iff.rfl ?_ (by simp)
    rintro ⟨_, _, _, h, -⟩
    cases h
  | attached _ _ hm _ hleft =>
    refine present_unmoved (present_kept hm hleft (by simp)) ?_ (by simp)
    rintro ⟨_, _, _, h, -⟩
    cases h
  | detached hm honline =>
    refine present_unmoved (present_kept hm (by rw [honline]; simp) (by simp)) ?_ (by simp)
    rintro ⟨_, _, _, h, -⟩
    cases h
  | ownerLeft =>
    refine present_unmoved Iff.rfl ?_ ?_
    · rintro ⟨_, _, _, h, -⟩
      cases h
    · intro h
      cases h
      exact howner rfl
  | @approved requestId now request hactive hlive hnow hr hp =>
    rw [present_setMembership]
    by_cases he : request.sessionId = sessionId
    · refine iff_of_true (.inl ⟨he, by simp⟩) (.inl ?_)
      exact ⟨requestId, now, request, rfl, hactive, hlive, hr, he, hp, hnow⟩
    · have hadmits : ¬ Admits room (.decideJoin room.owner requestId .approve now) sessionId := by
        rintro ⟨_, _, other, h, -, -, hother, hsession, -⟩
        cases h
        rw [hr] at hother
        cases hother
        exact he hsession
      rw [← present_setMembership]
      refine present_unmoved ?_ hadmits (by simp)
      rw [present_setMembership]
      have hrequests : Present (room.setJoinRequest requestId { request with state := .approved }) sessionId ↔
          Present room sessionId := Iff.rfl
      simp [he, hrequests]
  | @memberLeft changed membership _ hm hleft =>
    have hadmits : ¬ Admits room (.leave changed) sessionId := by
      rintro ⟨_, _, _, h, -⟩
      cases h
    rw [present_setMembership]
    by_cases he : changed = sessionId
    · simp [he] at hadmits ⊢
      exact hadmits
    · simp [he, hadmits]
  | @requestCancelled changed _ _ _ hm =>
    have hadmits : ¬ Admits room (.leave changed) sessionId := by
      rintro ⟨_, _, _, h, -⟩
      cases h
    by_cases he : changed = sessionId
    · subst he
      have hnot : ¬ Present room changed := by
        intro h
        obtain ⟨membership, hmember, -⟩ := h.membership
        rw [hm] at hmember
        cases hmember
      refine iff_of_false hnot ?_
      rintro (h | ⟨h, -⟩)
      · exact hadmits h
      · exact hnot h
    · refine present_unmoved Iff.rfl hadmits fun h => he ?_
      cases h
      rfl

/-- A receiver is a member after a command that admits it, and stays one until it leaves. -/
theorem present_step (room : Room) (command : RoomCommand) (howner : sessionId ≠ room.owner) :
    Present (room.handle command).2 sessionId ↔
      Admits room command sessionId ∨ Present room sessionId ∧ ¬ command = .leave sessionId := by
  rcases handle_memberships room command with ⟨next, heffect, hsame⟩ | ⟨hsame, hnone⟩
  · rw [← heffect.present_iff howner, Present, Present, hsame]
  · rw [hsame]
    constructor
    · intro h
      refine .inr ⟨h, fun hleave => ?_⟩
      obtain ⟨membership, hm, hleft⟩ := h.membership
      subst hleave
      exact hnone _ (.memberLeft howner hm hleft)
    · rintro (h | ⟨h, -⟩)
      · obtain ⟨next, heffect⟩ := h.effect
        exact absurd heffect (hnone next)
      · exact h

/-- What `create` returns. -/
theorem create_room {id : RoomId} {code : RoomCode} {owner : SessionId} {now expiresAt : Nat}
    {outcome : RoomCommandOutcome} (h : create id code owner now expiresAt = .ok (room, outcome)) :
    room.owner = owner ∧ ∀ s, room.membershipState s = if owner = s then some .offline else none := by
  unfold create at h
  split at h
  · cases h
  · cases h
    refine ⟨rfl, fun s => ?_⟩
    simp only [membershipState, BTreeMap.getElem?_insert, Std.ExtTreeMap.getElem?_empty]
    split <;> rfl

/-- **A receiver is a member exactly if the owner let it in and it has not left since.** -/
theorem member_iff {id : RoomId} {code : RoomCode} {owner : SessionId} {now expiresAt : Nat}
    {outcome : RoomCommandOutcome} (h : create id code owner now expiresAt = .ok (room, outcome))
    (howner : sessionId ≠ owner) (commands : List RoomCommand) :
    Present (room.handleAll commands) sessionId ↔
      ∃ before command after, commands = before ++ command :: after ∧
        Admits (room.handleAll before) command sessionId ∧ ∀ later ∈ after, later ≠ .leave sessionId := by
  obtain ⟨hown, hstates⟩ := create_room h
  have hnot : ¬ Present room sessionId := by
    rintro ⟨state, hstate, -⟩
    rw [hstates, if_neg (Ne.symm howner)] at hstate
    cases hstate
  have hstep : ∀ (room : Room) (command : RoomCommand), room.owner = owner → (Present (room.handle command).2 sessionId ↔
      Admits room command sessionId ∨ Present room sessionId ∧ ¬ command = .leave sessionId) := by
    intro room command hroom
    exact present_step room command (by rw [hroom]; exact howner)
  have hsince := since_iff (f := fun room command => (handle room command).2) (I := fun room => room.owner = owner)
    (P := fun room => Present room sessionId) (fun room command hroom => (handle_same room command).owner.trans hroom)
    hstep hown hnot commands
  exact hsince.trans since_of_ends

/-- A receiver asks, is let in and goes offline. -/
theorem member_iff_visit : ∃ room,
    create (.of "room_1") (.of "ABC234") ownerOne 0 1000 = .ok (room, .CHANGED) ∧
      Present (room.handleAll [.requestJoin requestOne (.of "receiver_1") 10 900,
        .decideJoin ownerOne requestOne .approve 20, .detach (.of "receiver_1") (.of "peer_1")])
        (.of "receiver_1") := by
  have h : create (.of "room_1") (.of "ABC234") ownerOne 0 1000 = .ok (_, .CHANGED) := rfl
  refine ⟨_, h, (member_iff h (by decide) _).mpr ⟨[.requestJoin requestOne (.of "receiver_1") 10 900], _, _, rfl, ?_,
    by simp⟩⟩
  exact ⟨requestOne, 20, ⟨.of "receiver_1", 900, .pending⟩, rfl, rfl, by decide, by decide +kernel, rfl, rfl, by decide⟩

/-! ## Members online -/

/-- A command that neither connects nor disconnects the session, and keeps it where it was. -/
theorem online_unmoved (hsame : next.membershipState sessionId = some (.online peerId) ↔
      room.membershipState sessionId = some (.online peerId))
    (hconnects : ∀ p, ¬ Connects room command sessionId p) (hdetach : command ≠ .detach sessionId peerId)
    (hleave : command = .leave sessionId → sessionId = room.owner) :
    next.membershipState sessionId = some (.online peerId) ↔
      Connects room command sessionId peerId ∨
        room.membershipState sessionId = some (.online peerId) ∧ ¬ Disconnects room command sessionId peerId := by
  constructor
  · intro h
    refine .inr ⟨hsame.mp h, ?_⟩
    rintro (hd | ⟨hl, howner⟩ | ⟨other, -, hc⟩)
    · exact hdetach hd
    · exact howner (hleave hl)
    · exact hconnects other hc
  · rintro (h | ⟨h, -⟩)
    · exact absurd h (hconnects peerId)
    · exact hsame.mpr h

theorem not_connects (hattach : ∀ p now, command ≠ .attach sessionId p now) (p : PeerId) :
    ¬ Connects room command sessionId p := by
  rintro ⟨now, hc, -⟩
  exact hattach p now hc

/-- A command that changes the membership of another session. -/
theorem online_other {changed : SessionId} {membership : Membership} (he : changed ≠ sessionId)
    (hattach : ∀ p now, command ≠ .attach sessionId p now) (hdetach : command ≠ .detach sessionId peerId)
    (hleave : command ≠ .leave sessionId) :
    (room.setMembership changed membership).membershipState sessionId = some (.online peerId) ↔
      Connects room command sessionId peerId ∨
        room.membershipState sessionId = some (.online peerId) ∧ ¬ Disconnects room command sessionId peerId := by
  refine online_unmoved ?_ (not_connects hattach) hdetach fun h => absurd h hleave
  rw [online_setMembership]
  simp [he]

theorem Effect.onlineNext_iff (heffect : Effect room command next) (hs : Standing room) :
    next.membershipState sessionId = some (.online peerId) ↔
      Connects room command sessionId peerId ∨
        room.membershipState sessionId = some (.online peerId) ∧ ¬ Disconnects room command sessionId peerId := by
  cases heffect with
  | requested | rejected | requestExpired | expired =>
    exact online_unmoved Iff.rfl (not_connects (by simp)) (by simp) (by simp)
  | ownerLeft =>
    refine online_unmoved Iff.rfl (not_connects (by simp)) (by simp) fun h => ?_
    cases h
    rfl
  | @approved requestId now request _ _ _ hr hp =>
    refine online_unmoved ?_ (not_connects (by simp)) (by simp) (by simp)
    rw [online_setMembership]
    have hrequests : (room.setJoinRequest requestId { request with state := .approved }).membershipState sessionId =
      room.membershipState sessionId := rfl
    rw [hrequests]
    by_cases he : request.sessionId = sessionId
    · -- a pending request is not a member's
      have hoffline : room.membershipState sessionId ≠ some (.online peerId) := by
        intro honline
        obtain ⟨membership, hm, hstate⟩ := Option.map_eq_some_iff.mp honline
        have hleft := hs.pendingOutside requestId request membership hr hp (by rw [he]; exact hm)
        rw [hstate] at hleft
        cases hleft
      simp [he, hoffline]
    · simp [he]
  | @attached changed taken now membership hactive hlive hm honline hleft =>
    by_cases he : changed = sessionId
    · subst he
      have hpresent := present_of_membership hm hleft
      rw [online_setMembership]
      by_cases hp : taken = peerId
      · subst hp
        exact iff_of_true (.inl ⟨rfl, rfl⟩) (.inl ⟨now, rfl, hactive, hlive, hpresent⟩)
      · refine iff_of_false ?_ ?_
        · rintro (⟨-, h⟩ | ⟨h, -⟩)
          · cases h
            exact hp rfl
          · exact h rfl
        · rintro (⟨_, h, -⟩ | ⟨-, h⟩)
          · cases h
            exact hp rfl
          · exact h (.inr (.inr ⟨taken, hp, now, rfl, hactive, hlive, hpresent⟩))
    · exact online_other he (by simp [he]) (by simp) (by simp)
  | @detached changed taken membership hm honline =>
    by_cases he : changed = sessionId
    · subst he
      refine iff_of_false ?_ ?_
      · rw [online_setMembership]
        simp
      · rintro (⟨_, h, -⟩ | ⟨hwas, h⟩)
        · cases h
        · refine h (.inl ?_)
          rw [membershipState, hm, Option.map_some, honline] at hwas
          cases hwas
          rfl
    · exact online_other he (by simp) (by simp [he]) (by simp)
  | @memberLeft changed membership howner hm hleft =>
    by_cases he : changed = sessionId
    · subst he
      refine iff_of_false ?_ ?_
      · rw [online_setMembership]
        simp
      · rintro (⟨_, h, -⟩ | ⟨-, h⟩)
        · cases h
        · exact h (.inr (.inl ⟨rfl, howner⟩))
    · exact online_other he (by simp) (by simp) (by simp [he])
  | @requestCancelled changed _ _ howner hm =>
    by_cases he : changed = sessionId
    · subst he
      have hnot : room.membershipState changed ≠ some (.online peerId) := by
        rw [membershipState, hm]
        simp
      refine iff_of_false hnot ?_
      rintro (⟨_, h, -⟩ | ⟨h, -⟩)
      · cases h
      · exact hnot h
    · exact online_unmoved Iff.rfl (not_connects (by simp)) (by simp) (by simp [he])

/-- A member is online after a command that connects it, and stays so until one disconnects it. -/
theorem online_step (command : RoomCommand) (hs : Standing room) :
    (room.handle command).2.membershipState sessionId = some (.online peerId) ↔
      Connects room command sessionId peerId ∨
        room.membershipState sessionId = some (.online peerId) ∧ ¬ Disconnects room command sessionId peerId := by
  rcases handle_memberships room command with ⟨next, heffect, hsame⟩ | ⟨hsame, hnone⟩
  · rw [hsame, heffect.onlineNext_iff hs]
  rw [hsame]
  constructor
  · intro honline
    obtain ⟨membership, hm, hstate⟩ := Option.map_eq_some_iff.mp honline
    refine .inr ⟨honline, ?_⟩
    rintro (rfl | ⟨rfl, howner⟩ | ⟨other, hother, now, rfl, hactive, hlive, -⟩)
    · exact hnone _ (.detached hm hstate)
    · exact hnone _ (.memberLeft howner hm (by rw [hstate]; simp))
    · refine hnone _ (.attached hactive hlive hm ?_ (by rw [hstate]; simp))
      rw [hstate]
      intro h
      cases h
      exact hother rfl
  · rintro (⟨now, rfl, hactive, hlive, hpresent⟩ | ⟨h, -⟩)
    · obtain ⟨membership, hm, hleft⟩ := hpresent.membership
      by_contra honline
      refine hnone _ (.attached hactive hlive hm (fun hstate => honline ?_) hleft)
      rw [membershipState, hm, Option.map_some, hstate]
    · exact h

/-- **A member is online under a peer id exactly if it connected under it and nothing disconnected it since.** -/
theorem online_iff {id : RoomId} {code : RoomCode} {owner : SessionId} {now expiresAt : Nat}
    {outcome : RoomCommandOutcome} (h : create id code owner now expiresAt = .ok (room, outcome))
    (sessionId : SessionId) (peerId : PeerId) (commands : List RoomCommand) :
    (room.handleAll commands).membershipState sessionId = some (.online peerId) ↔
      ∃ before command after, commands = before ++ command :: after ∧
        Connects (room.handleAll before) command sessionId peerId ∧
        ∀ between later rest, after = between ++ later :: rest →
          ¬ Disconnects (room.handleAll (before ++ command :: between)) later sessionId peerId := by
  have hnot : ¬ room.membershipState sessionId = some (.online peerId) := by
    rw [(create_room h).2]
    split <;> simp
  have hstep : ∀ (room : Room) (command : RoomCommand), Standing room →
      ((room.handle command).2.membershipState sessionId = some (.online peerId) ↔
        Connects room command sessionId peerId ∨
          room.membershipState sessionId = some (.online peerId) ∧ ¬ Disconnects room command sessionId peerId) :=
    fun _ command hs => online_step command hs
  exact since_iff (f := fun room command => (handle room command).2) (I := Standing)
    (P := fun room => room.membershipState sessionId = some (.online peerId)) (fun _ command hs => hs.handle command)
    hstep (create_standing h) hnot commands

/-- The owner attaches and attaches again under the same peer id. -/
theorem online_iff_twice : ∃ room,
    create (.of "room_1") (.of "ABC234") ownerOne 0 1000 = .ok (room, .CHANGED) ∧
      (room.handleAll [.attach ownerOne (.of "peer_1") 30, .attach ownerOne (.of "peer_1") 40]).membershipState ownerOne =
        some (.online (.of "peer_1")) := by
  have h : create (.of "room_1") (.of "ABC234") ownerOne 0 1000 = .ok (_, .CHANGED) := rfl
  refine ⟨_, h, (online_iff h ownerOne (.of "peer_1") _).mpr
    ⟨[.attach ownerOne (.of "peer_1") 30], .attach ownerOne (.of "peer_1") 40, [], rfl, ?_, fun between later rest hr => ?_⟩⟩
  · exact ⟨40, rfl, by decide +kernel, by decide +kernel, .online (.of "peer_1"), by decide +kernel, by simp⟩
  · cases between <;> cases hr

/-! ## Revisions -/

/-- The room goes on to `next` without its revision standing still, as long as revisions can be counted. -/
structure Counted (room next : Room) : Prop where
  grows : room.revision ≤ next.revision
  counted : next.revision < U64_MAX → next = room ∨ room.revision < next.revision

theorem Counted.refl (room : Room) : Counted room room := ⟨le_rfl, fun _ => .inl rfl⟩

theorem Counted.trans {last : Room} (h : Counted room next) (h' : Counted next last) : Counted room last := by
  refine ⟨h.grows.trans h'.grows, fun hlast => ?_⟩
  have hgrows := h'.grows
  rcases h'.counted hlast with rfl | hless
  · exact h.counted hlast
  · exact .inr (lt_of_le_of_lt h.grows hless)

theorem handle_counted (room : Room) (command : RoomCommand) : Counted room (room.handle command).2 := by
  rcases handle_cases room command with ⟨error, h⟩ | h | ⟨next, heffect, h⟩
  · rw [h]
    exact .refl room
  · rw [h]
    exact .refl room
  · rw [h]
    by_cases hroom : next.revision < U64_MAX
    · rw [commit_below hroom]
      exact ⟨by simp [heffect.revision], fun _ => .inr (by simp [heffect.revision])⟩
    · rw [commit_overflow hroom]
      exact ⟨heffect.revision.ge, fun hnext => absurd hnext hroom⟩

theorem handleAll_counted (room : Room) (commands : List RoomCommand) : Counted room (room.handleAll commands) :=
  (handleAll_run room commands).relates (I := fun _ => True) Counted.refl Counted.trans
    (fun room command _ _ he => by subst he; exact ⟨trivial, handle_counted room command⟩) trivial

/-- **Along a history a revision below the largest one names one room.** -/
theorem revision_names_room (room : Room) {commands before later : List RoomCommand} (hbefore : before <+: commands)
    (hlater : later <+: commands) (hsame : (room.handleAll before).revision = (room.handleAll later).revision)
    (hbelow : (room.handleAll later).revision < U64_MAX) : room.handleAll before = room.handleAll later := by
  have hextends : ∀ {first second : List RoomCommand}, first <+: second →
      (room.handleAll first).revision = (room.handleAll second).revision →
      (room.handleAll second).revision < U64_MAX → room.handleAll second = room.handleAll first := by
    rintro first second ⟨rest, rfl⟩ hrevision hsecond
    have hcounted : Counted (room.handleAll first) (room.handleAll (first ++ rest)) := by
      rw [handleAll_append]
      exact handleAll_counted _ rest
    rcases hcounted.counted hsecond with he | hless
    · exact he
    · omega
  rcases List.prefix_or_prefix_of_prefix hbefore hlater with h | h
  · exact (hextends h hsame hbelow).symm
  · exact hextends h hsame.symm (by rw [hsame]; exact hbelow)

/-- A second attachment under the same peer id changes nothing. -/
theorem revision_names_room_attached : ∃ room,
    create (.of "room_1") (.of "ABC234") ownerOne 0 1000 = .ok (room, .CHANGED) ∧
      room.handleAll [.attach ownerOne (.of "peer_1") 30] =
        room.handleAll [.attach ownerOne (.of "peer_1") 30, .attach ownerOne (.of "peer_1") 40] := by
  have hextended : [.attach ownerOne (.of "peer_1") 30] <+:
      [.attach ownerOne (.of "peer_1") 30, RoomCommand.attach ownerOne (.of "peer_1") 40] :=
    ⟨[.attach ownerOne (.of "peer_1") 40], rfl⟩
  exact ⟨_, rfl, revision_names_room _ hextended (List.prefix_refl _) (by decide +kernel) (by decide +kernel)⟩

end Room

end P2PTransmission
