/-
  Twolk.Signaling.Isolation
  ─────────────────────────
  **MEDIA ISOLATION.**  A worker is asked to act on a transport only when a
  session forwards a message of its member, and then on a transport of that
  member; a consume names the producer the transport was allocated for, of a
  member now in the space.  The client's `sourceMemberId` picks one of the
  member's own transports, nothing else.
-/
import Twolk.Coordinator.Answers
import Twolk.Signaling.Steps

namespace Twolk.Signaling

open Twolk.Lib Coordinator

/-! ## §1. What an isolated update is. -/

/-- Update `u` for transport `t` stays within what member `m` may do in
space `uuid`. -/
structure Isolated (c : Coord Publisher) (uuid : Uuid) (m : MemberId)
    (t : TransportId) (u : TransportUpdateC) : Prop where
  /-- The target is the member's own. -/
  owned : ∃ T, c.transportHeap.get? t = some T ∧ T.owningMember = m
  /-- A consume is from the producer the target is for, and its owner is in
  the space. -/
  consumes : ∀ rtpCapabilities producer,
    u = .transportConsumerConsumeEvent rtpCapabilities producer →
    (∃ T, c.transportHeap.get? t = some T ∧
      T.consumesFromTransportId = some producer) ∧
    ∃ source ∈ c.membersOf uuid, c.producerOf source = some producer

/-- What the dispatcher publishes is isolated. -/
theorem isolated_of_forwards {c : Coord Publisher} {uuid : Uuid}
    {update : SpaceUpdateS} {t : TransportId} {T : Transport}
    {u : TransportUpdateC} (hwf : TransportWF c)
    (htarget : c.targetOf uuid update = some t)
    (hT : c.transportHeap.get? t = some T)
    (hu : c.Forwards uuid T.status update u) :
    Isolated c uuid update.memberId t u := by
  refine ⟨targetOf_owned hwf htarget, fun rtpCapabilities producer heq => ?_⟩
  subst heq
  obtain ⟨hs, hsource⟩ := consume_source hwf htarget hT hu
  exact ⟨⟨T, hT, hs⟩, hsource⟩

/-- A forwarded event is about the member of its session. -/
theorem memberId_toUpdate (m : MemberId) (event : ForwardedEvent) :
    (event.toUpdate m).memberId = m := by
  cases event <;> rfl

/-! ## §2. Every step of the system. -/

namespace System

/-- The updates of a stretch are for the forwarded message, if it is one. -/
theorem stretch_updates {sync : Bool} {s s' : System} {a : Request}
    {reqs : List Request} {n : Nat} {t : TransportId}
    {u : TransportUpdateC} {cb : Publisher}
    (hr : (Coordinator.machine Publisher).Reachable s.coordinator)
    (h : s.stretch sync a = some (s', reqs))
    (ho : .transportUpdate n t u cb ∈ s'.out) :
    .transportUpdate n t u cb ∈ s.out ∨
      ∃ uuid update, a = .spaceUpdateStream uuid update cb ∧
        Isolated s.coordinator uuid update.memberId t u := by
  obtain ⟨obs, hobs, hout, -⟩ := stretch_step h
  rw [hout] at ho
  rcases List.mem_append.mp ho with ho | ho
  · exact .inl ho
  · obtain ⟨-, uuid, update, T, rfl, htarget, hT, -, hu⟩ :=
      transportUpdate_step hr hobs ho
    exact .inr ⟨uuid, update, rfl,
      isolated_of_forwards (coordWF_reachable hr).transport htarget hT hu⟩

/-- The requests of callbacks publish no update. -/
theorem run_updates {sync : Bool} {s s' : System} {a : Request} {n : Nat}
    {t : TransportId} {u : TransportUpdateC} {cb : Publisher}
    (hr : (Coordinator.machine Publisher).Reachable s.coordinator)
    (hout : s.out = []) (h : s.run sync a = some s')
    (ho : .transportUpdate n t u cb ∈ s'.out) :
    ∃ uuid update, a = .spaceUpdateStream uuid update cb ∧
      Isolated s.coordinator uuid update.memberId t u := by
  refine (run_induction (fun s' =>
    (Coordinator.machine Publisher).Reachable s'.coordinator ∧
      (.transportUpdate n t u cb ∈ s'.out →
        ∃ uuid update, a = .spaceUpdateStream uuid update cb ∧
          Isolated s.coordinator uuid update.memberId t u)) h
    ⟨hr, fun ho => ?_⟩ (fun s' reqs _ hs => ⟨?_, fun ho => ?_⟩)
    fun t₁ t₂ b reqs hb hI ht => ⟨?_, fun ho => ?_⟩).2 ho
  · rw [hout] at ho
    cases ho
  · obtain ⟨obs, hobs, -⟩ := stretch_step hs
    exact hr.step hobs
  · rcases stretch_updates hr hs ho with ho | ho
    · rw [hout] at ho
      cases ho
    · exact ho
  · obtain ⟨obs, hobs, -⟩ := stretch_step ht
    exact hI.1.step hobs
  · rcases stretch_updates hI.1 ht ho with ho | ⟨_, _, rfl, -⟩
    · exact hI.2 ho
    · obtain ⟨_, _, hb⟩ := hb
      cases hb

end System

/-- **Media isolation.**  Whatever a step of the system makes a worker do is
what a session forwarded, done to a transport of its own member. -/
theorem media_isolated {s s' : System} {a : SystemAction}
    {obs : List (Out Publisher)} (h : machine.Reachable s)
    (hs : machine.step s a = some (s', obs)) {n : Nat} {t : TransportId}
    {u : TransportUpdateC} {cb : Publisher}
    (ho : .transportUpdate n t u cb ∈ obs) :
    ∃ serverId session event cId v x m,
      a = .forward serverId session event cId ∧
      s.servers.get? serverId = some v ∧
      v.sessions.get? session = some x ∧ x.listening = some m ∧
      Isolated s.coordinator x.auth.spaceUuid m t u := by
  have hr := System.coordinator_reachable h
  obtain ⟨d, hd, heq⟩ := Option.map_eq_some_iff.mp hs
  cases heq
  cases System.act_acts hd with
  | started => cases ho
  | @called serverId v _ p _ hv hc hpub =>
      obtain ⟨v', req⟩ := p
      rcases System.publish_eq hpub with ⟨-, rfl⟩ | ⟨b, rfl, hrun⟩
      · cases ho
      obtain ⟨uuid, update, rfl, hiso⟩ := System.run_updates
        (s := { s with servers := s.servers.set serverId v', out := [] })
        hr rfl hrun ho
      -- only a forwarded message is a space update
      cases hc.requests with
      | @forward session x m event cId hx hm =>
          rw [memberId_toUpdate] at hiso
          exact ⟨serverId, session, event, cId, v, x, m, rfl, hv, hx, hm,
            hiso⟩
  | @coordinator b _ ha hrun =>
      obtain ⟨uuid, update, rfl, -⟩ := System.run_updates
        (s := { s with out := [] }) hr rfl hrun ho
      cases ha

/-! ## §3. A forwarded consume. -/

section Consume

/-- The first member consumes the second one. -/
def consumeSecond : SystemAction :=
  .forward 1 0 (.transportConsumerConsume "rtp" 1) "1"

/-- One member consumes from another of the same space. -/
theorem media_isolated_consume : ∃ s s' obs n cb,
    machine.Reachable s ∧ machine.step s consumeSecond = some (s', obs) ∧
      .transportUpdate n 2 (.transportConsumerConsumeEvent "rtp" 1) cb
        ∈ obs ∧
      Isolated s.coordinator "room" 0 2
        (.transportConsumerConsumeEvent "rtp" 1) := by
  obtain ⟨past, s, tr, hr, hp⟩ := Machine.Run.exists_of_exec
    (M := machine) (G := anyStep) (l := twoMembers)
    (p := fun r => decide ((machine.step r.2.1 consumeSecond).map Prod.snd
      = some [.transportUpdate 0 2 (.transportConsumerConsumeEvent "rtp" 1)
          (.forward 1 0 (.transportConsumerConsume "rtp" 1) "1")] ∧
      (((r.2.1.servers.get? 1).bind fun v => v.sessions.get? 0).map
        fun x => (x.auth.spaceUuid, x.listening)) = some ("room", some 0)))
    rfl (by decide)
  obtain ⟨hstep, hx⟩ := of_decide_eq_true hp
  obtain ⟨⟨s', obs⟩, hs, rfl⟩ := Option.map_eq_some_iff.mp hstep
  have hmem := List.mem_singleton_self
    (Out.transportUpdate 0 2 (.transportConsumerConsumeEvent "rtp" 1)
      (Publisher.forward 1 0 (.transportConsumerConsume "rtp" 1) "1"))
  obtain ⟨serverId, session, event, cId, v, x, m, ha, hv, hxs, hm, hiso⟩ :=
    media_isolated hr.reachable hs hmem
  cases ha
  simp only [hv, hxs, hm, Option.bind_some, Option.map_some,
    Option.some.injEq, Prod.mk.injEq] at hx
  obtain ⟨huuid, rfl⟩ := hx
  rw [huuid] at hiso
  exact ⟨s, s', _, _, _, hr.reachable, hs, hmem, hiso⟩

end Consume

end Twolk.Signaling
