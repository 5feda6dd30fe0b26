import P2PTransmission.Domain.Restore

/-!
# Peer ids

A peer id is chosen by the client, and `attach` compares it with the session's own membership only. The peer ids of the
members that are online stay different along a run exactly if no attachment of the run takes one that another member is
online with (`peers_unique_iff`).
-/

set_option autoImplicit false

namespace P2PTransmission

namespace Room

variable {room next : Room} {command : RoomCommand}

/-- No two memberships are online under one peer id. -/
def PeersUnique (room : Room) : Prop :=
  ∀ (s t : SessionId) (peerId : PeerId), room.membershipState s = some (.online peerId) →
    room.membershipState t = some (.online peerId) → s = t

/-- The step is an attachment that passes the checks, under a peer id that another member is online with. -/
def TakesPeer (room : Room) (command : RoomCommand) : Prop :=
  ∃ sessionId peerId now, command = .attach sessionId peerId now ∧
    room.state = .active ∧ now < room.expiresAt ∧
    (∃ membership, room.memberships[sessionId]? = some membership ∧ membership.state ≠ .online peerId ∧
      membership.state ≠ .left) ∧
    ∃ other, other ≠ sessionId ∧ room.membershipState other = some (.online peerId)

theorem membershipState_setMembership (room : Room) (sessionId other : SessionId) (membership : Membership) :
    (room.setMembership sessionId membership).membershipState other =
      if sessionId = other then some membership.state else room.membershipState other := by
  simp only [membershipState, memberships_setMembership]
  split <;> rfl

/-- A member that goes offline or leaves takes no peer id. -/
theorem PeersUnique.setMembership (h : PeersUnique room) {sessionId : SessionId} {membership : Membership}
    (hfree : ∀ peerId, membership.state = .online peerId →
      ∀ other, other ≠ sessionId → room.membershipState other ≠ some (.online peerId)) :
    PeersUnique (room.setMembership sessionId membership) := by
  intro s t peerId hs ht
  rw [membershipState_setMembership] at hs ht
  by_cases hS : sessionId = s
  · by_cases hT : sessionId = t
    · exact hS.symm.trans hT
    · rw [if_pos hS] at hs
      rw [if_neg hT] at ht
      exact absurd ht (hfree peerId (Option.some.inj hs) t (Ne.symm hT))
  · rw [if_neg hS] at hs
    by_cases hT : sessionId = t
    · rw [if_pos hT] at ht
      exact absurd hs (hfree peerId (Option.some.inj ht) s (Ne.symm hS))
    · rw [if_neg hT] at ht
      exact h s t peerId hs ht

theorem PeersUnique.effect (h : PeersUnique room) (heffect : Effect room command next)
    (htakes : ¬ TakesPeer room command) : PeersUnique next := by
  cases heffect with
  | requested | rejected | requestExpired | requestCancelled | ownerLeft | expired => exact h
  | approved =>
    have hstored := @PeersUnique.setMembership room h
    exact hstored fun peerId he => by cases he
  | detached | memberLeft => exact h.setMembership fun peerId he => by cases he
  | @attached sessionId peerId now membership hactive hlive hm honline hleft =>
    refine h.setMembership fun taken he other hother hother' => htakes ?_
    cases he
    exact ⟨sessionId, peerId, now, rfl, hactive, hlive, ⟨membership, hm, honline, hleft⟩, other, hother, hother'⟩

theorem PeersUnique.handle (h : PeersUnique room) (htakes : ¬ TakesPeer room command) :
    PeersUnique (room.handle command).2 := by
  rcases handle_room room command with he | ⟨next, heffect, he | he⟩
  · rwa [he]
  · rw [he]
    exact h.effect heffect htakes
  · have hnext : PeersUnique next := h.effect heffect htakes
    rw [he]
    exact hnext

/-- Such an attachment leaves two members online under one peer id. -/
theorem TakesPeer.clashes (h : TakesPeer room command) : ¬ PeersUnique (room.handle command).2 := by
  obtain ⟨sessionId, peerId, now, rfl, hactive, hlive, ⟨membership, hm, honline, hleft⟩, other, hother, hothers⟩ := h
  have hhandle : room.handle (.attach sessionId peerId now) =
      (room.setMembership sessionId { membership with state := .online peerId }).commit := by
    simp [Room.handle, attach, ensureActive_of hactive hlive, hm, honline, hleft]
  have hstate : ∀ s, (room.handle (.attach sessionId peerId now)).2.membershipState s =
      if sessionId = s then some (.online peerId) else room.membershipState s := by
    intro s
    rw [hhandle, ← membershipState_setMembership room sessionId s { membership with state := .online peerId }]
    rcases commit_cases (room.setMembership sessionId { membership with state := .online peerId }) with hc | hc
    · rw [hc]
      rfl
    · rw [hc]
  intro hunique
  refine hother (hunique other sessionId peerId ?_ ?_)
  · rw [hstate, if_neg (Ne.symm hother)]
    exact hothers
  · rw [hstate, if_pos rfl]

/-- **The members that are online have different peer ids along a run exactly if no attachment of the run takes the peer
id of another one.** -/
theorem peers_unique_iff {id : RoomId} {code : RoomCode} {owner : SessionId} {now expiresAt : Nat}
    {outcome : RoomCommandOutcome} (h : create id code owner now expiresAt = .ok (room, outcome))
    (commands : List RoomCommand) :
    Always PeersUnique room commands ↔
      ∀ before command, before ++ [command] <+: commands → ¬ TakesPeer (room.handleAll before) command := by
  constructor
  · intro halways before command hprefix htakes
    refine htakes.clashes ?_
    rw [← handleAll_concat]
    exact halways _ hprefix
  · intro hnone
    refine always_of_step ?_ fun before command hprefix hbefore => hbefore.handle (hnone before command hprefix)
    intro s t peerId hs
    unfold create at h
    split at h
    · cases h
    · cases h
      simp only [membershipState, BTreeMap.getElem?_insert, Std.ExtTreeMap.getElem?_empty] at hs
      split at hs <;> cases hs

/-- The owner and a receiver attach under one peer id. -/
def attachTwice : List RoomCommand :=
  [.requestJoin requestOne (.of "receiver_2") 10 900, .decideJoin ownerOne requestOne .approve 20,
    .attach ownerOne (.of "peer_shared") 30, .attach (.of "receiver_2") (.of "peer_shared") 40]

theorem peers_unique_breaks : ∃ room,
    create (.of "room_1") (.of "ABC234") ownerOne 0 1000 = .ok (room, .CHANGED) ∧
      ¬ ∀ commands, Always PeersUnique room commands := by
  refine ⟨_, rfl, fun h => ?_⟩
  have hunique := h attachTwice _ (List.prefix_refl _)
  have hsame := hunique ownerOne (.of "receiver_2") (.of "peer_shared") (by decide +kernel) (by decide +kernel)
  revert hsame
  decide

/-- The owner attaches alone. -/
theorem peers_unique_alone : ∃ room,
    create (.of "room_1") (.of "ABC234") ownerOne 0 1000 = .ok (room, .CHANGED) ∧
      Always PeersUnique room [.attach ownerOne (.of "peer_1") 30] := by
  have h : create (.of "room_1") (.of "ABC234") ownerOne 0 1000 = .ok (_, .CHANGED) := rfl
  refine ⟨_, h, (peers_unique_iff h _).mpr fun before command hprefix htakes => ?_⟩
  have hbefore : before = [] := by
    have hlength := hprefix.length_le
    rw [List.length_append, List.length_singleton, List.length_singleton] at hlength
    exact List.length_eq_zero_iff.mp (by omega)
  subst hbefore
  obtain ⟨-, peerId, -, -, -, -, -, other, -, honline⟩ := htakes
  simp only [handleAll, List.foldl_nil, membershipState, BTreeMap.getElem?_insert,
    Std.ExtTreeMap.getElem?_empty] at honline
  split at honline <;> cases honline

end Room

end P2PTransmission
