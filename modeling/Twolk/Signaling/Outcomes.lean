/-
  Twolk.Signaling.Outcomes
  ────────────────────────
  **ONE OUTCOME OF A JOIN, AND THE CLIENT HEARS IT.**

  A session reports `connectionSuccessful` as soon as its space is prepared,
  and may fail after that: then it reports `connectionFailed` as well, and
  the client, which has its outcome, no longer listens.  `completesJoins`
  excludes just these steps.

  Main results:
    * `oneOutcome_of_completesJoins` — with the guard every join has one
      outcome, and a client that is told of a failure runs its handlers,
    * `two_outcomes` — without it, both outcomes reach one channel.
-/
import Twolk.Web.SignalingSocket

namespace Twolk.Signaling

open Twolk.Lib Coordinator Web

/-! ## §1. The guard. -/

/-- If the session has come back from `prepareMember`, its promise was
fulfilled, and its server mirrors the space. -/
def Session.completes (v : Server) (x : Session) : Prop :=
  match x.phase with
  | .preparingMember (some (.ok _)) =>
      (v.getSpace x.auth.spaceUuid).isSome = true
  | .preparingMember (some (.error _)) => False
  | _ => True

instance (v : Server) (x : Session) : Decidable (x.completes v) := by
  unfold Session.completes
  split <;> infer_instance

/-- A session that resumes after `prepareMember` completes its join. -/
def completesJoins : Guard System SystemAction (Out Publisher) :=
  fun _ s a => match a with
    | .resume serverId session => ∀ v ∈ s.servers.get? serverId,
        ∀ x ∈ v.sessions.get? session, x.completes v
    | _ => True

instance (tr : List (Out Publisher)) (s : System) (a : SystemAction) :
    Decidable (completesJoins tr s a) := by
  unfold completesJoins
  split <;> infer_instance

/-! ## §2. One outcome. -/

/-- The client at the other end of a channel, connected before the first
event arrives. -/
def Session.client (x : Session) : SignalingSocketWrapper :=
  (SignalingSocketWrapper.initial.receive .connect).receiveAll x.emitted

/-- At most one outcome was emitted, and if it was a failure, the client has
run its failed handlers. -/
def Session.OneOutcome (x : Session) : Prop :=
  x.emitted.countP (·.kind = .outcome) ≤ 1 ∧
    ∀ message, .connectionFailed message ∈ x.emitted →
      .failed message ∈ x.client.ran

/-- A session that has failed has reported nothing else. -/
def Server.FailsAtOnce (v : Server) : Prop :=
  ∀ session x, v.sessions.get? session = some x → x.stage = .failed →
    outline x.emitted = [.connectionFailed ""]

/-- One session has changed, and has not failed after a success. -/
theorem Server.FailsAtOnce.puts {v u v' : Server} {session : SessionId}
    {x' : Session} (h : v.FailsAtOnce) (hu : u.sessions = v.sessions)
    (hp : Server.Puts u session x' v')
    (hx' : x'.stage = .failed →
      outline x'.emitted = [.connectionFailed ""]) : v'.FailsAtOnce := by
  intro session' y hy hs
  by_cases heq : session' = session
  · rw [heq, hp.self] at hy
    cases hy
    exact hx' hs
  · rw [hp.others session' heq, hu] at hy
    exact h session' y hy hs

/-- Sessions that keep their place emit no outcome. -/
theorem Server.FailsAtOnce.keeps {v v' : Server} (h : v.FailsAtOnce)
    (hk : Server.Keeps v v') : v'.FailsAtOnce := by
  intro session x' hx' hs
  obtain ⟨x, hx, hxy⟩ := hk.before hx'
  rw [hxy.stage] at hs
  rw [hxy.outline_eq (by rw [hs]; decide)]
  exact h session x hx hs

/-- A session goes on, whose join is not refused. -/
theorem Server.FailsAtOnce.resume {v : Server} {serverId : ServerId}
    {session : SessionId} {x : Session} {p : Server × Option Request}
    (h : v.FailsAtOnce) (hv : v.Channels)
    (hx : v.sessions.get? session = some x) (hg : x.completes v)
    (hres : v.resume serverId session x = some p) : p.1.FailsAtOnce := by
  have ho := hv.orderly session x hx
  cases Server.resumes_of_resume hx hres with
  | rejected hp hputs =>
      rcases hp with hp | hp
      · refine h.puts rfl hputs fun _ => ?_
        simp only [Session.Orderly, Session.stage, hp] at ho
        rw [Session.hear, outline_append, ho.2]
        rfl
      · -- the guard: the promise of `prepareMember` was fulfilled
        simp [Session.completes, hp] at hg
  | unmirrored hp hs hputs =>
      simp [Session.completes, hp, hs] at hg
  | spacePrepared _ _ hputs => exact h.puts rfl hputs fun hs => by cases hs
  | spaceGone _ _ hputs => exact h.puts rfl hputs fun hs => by cases hs
  | @joined v' memberId _ _ _ hputs =>
      exact h.puts (u := { v with
        memberIdToChannel := v.memberIdToChannel.set memberId session })
        rfl hputs fun hs => by cases hs

/-- At every point of a guarded run a join that fails has emitted no success.
-/
theorem failsAtOnce_of_completesJoins {s : System} {reqs : List Request}
    (h : System.Point completesJoins s reqs) :
    ∀ serverId v, s.servers.get? serverId = some v → v.FailsAtOnce := by
  refine h.server Server.FailsAtOnce (fun _ _ hx => (nomatch hx))
    (fun {tr s serverId v a p} h hg hv hI hc => ?_)
    (fun h hv hI hc =>
      hI.keeps (Server.callback_keeps (h.channels hv).registered hc))
  cases hc with
  | connect auth =>
      intro session x hx hs
      rcases Server.start_sessions hx with hx | ⟨result, rfl⟩
      · exact hI session x hx hs
      · cases hs
  | resume hx hp =>
      exact hI.resume (h.channels hv) hx (hg v hv _ hx) hp
  | @close session x hx _ =>
      have hx' : Session.stage { x with isOpen := false } = .failed →
          outline x.emitted = [.connectionFailed ""] := hI session x hx
      cases hm : x.memberId with
      | none => exact hI.puts rfl (Server.close_eq_none _ hx hm).1 hx'
      | some memberId =>
          exact hI.puts (u := { v with
            memberIdToChannel := v.memberIdToChannel.delete memberId })
            rfl (Server.close_eq_some _ hx hm).1 hx'
  | updateMemberState newState cId _ _ _ =>
      exact hI.keeps (Server.updateMemberState_keeps
        (h.channels hv).registered _ _ newState cId)
  | forward => exact hI

/-- The outcomes a channel carried are in its outline. -/
theorem find?_outcome (l : List ServerToClientEvent) :
    l.find? (·.kind = .outcome) = (outline l).find? (·.kind = .outcome) := by
  unfold outline
  rw [List.find?_filter]
  congr 1
  funext e
  cases e.kind <;> rfl

/-- Outcomes are counted on the outline. -/
theorem countP_outcome (l : List ServerToClientEvent) :
    l.countP (·.kind = .outcome) = (outline l).countP (·.kind = .outcome) := by
  unfold outline
  rw [List.countP_filter]
  refine List.countP_congr fun e _ => ?_
  cases e.kind <;> simp

/-- **One outcome** is on the channel of an orderly session, at most. -/
theorem Session.Orderly.oneOutcome {x : Session} (h : x.Orderly)
    (hfail : x.stage = .failed →
      outline x.emitted = [.connectionFailed ""]) : x.OneOutcome := by
  have hmem : ∀ message, .connectionFailed message ∈ x.emitted →
      .connectionFailed message ∈ outline x.emitted := fun message hm =>
    List.mem_filter.mpr ⟨hm, rfl⟩
  have hviews : ∀ views : List ServerToClientEvent,
      (∀ e ∈ views, e.kind = .view) →
      views.countP (·.kind = .outcome) = 0 := fun views hv =>
    List.countP_eq_zero.mpr fun e he => by simp [hv e he]
  unfold Session.OneOutcome
  rw [countP_outcome]
  cases hs : x.stage with
  | failed =>
      rw [hfail hs]
      refine ⟨by decide, fun message hm => ?_⟩
      have hm := hmem message hm
      rw [hfail hs] at hm
      cases List.mem_singleton.mp hm
      -- the failure is the first outcome the client hears
      unfold Session.client
      rw [SignalingSocketWrapper.receiveAll_armed, find?_outcome, hfail hs]
      decide
  | preparingSpace =>
      simp only [Session.Orderly, hs] at h
      refine ⟨by rw [h.2]; decide, fun message hm => ?_⟩
      have hm := hmem message hm
      rw [h.2] at hm
      cases hm
  | preparingMember =>
      simp only [Session.Orderly, hs] at h
      refine ⟨by rw [h.2]; decide, fun message hm => ?_⟩
      have hm := hmem message hm
      rw [h.2] at hm
      cases List.mem_singleton.mp hm
  | joined =>
      simp only [Session.Orderly, hs] at h
      obtain ⟨m, caps, space, views, -, -, hout, hv⟩ := h
      refine ⟨?_, fun message hm => ?_⟩
      · rw [hout, List.countP_cons, List.countP_cons, hviews views hv]
        simp [ServerToClientEvent.kind]
      · have hm := hmem message hm
        rw [hout] at hm
        simp only [List.mem_cons, reduceCtorEq, false_or] at hm
        cases hv _ hm

/-- **One connection outcome per join.**  In a run in which every session
that comes back from `prepareMember` completes its join, a channel carries
at most one outcome, and a client that is told of a failure runs its failed
handlers. -/
theorem oneOutcome_of_completesJoins {past : List System} {s : System}
    {tr : List (Out Publisher)} (h : machine.Run completesJoins past s tr)
    {serverId : ServerId} {v : Server} {session : SessionId} {x : Session}
    (hv : s.servers.get? serverId = some v)
    (hx : v.sessions.get? session = some x) : x.OneOutcome := by
  have hpoint := System.Run.point h
  exact ((hpoint.channels hv).orderly session x hx).oneOutcome
    (failsAtOnce_of_completesJoins hpoint serverId v hv session x hx)

/-! ## §3. A success, then a failure. -/

/-- Ben connects to a space that is mirrored; before his session goes on, its
only member leaves, and the server unsubscribes. -/
def joinsTooLate : List SystemAction :=
  [.coordinator (.mediaWorkerConnected 1),
   .coordinator (.createSpaceRequest "room" ⟨"Room", ""⟩
     "subscription-driven" .external),
   .startServer 1, .connect 1 ⟨"room", ⟨"Ann"⟩, ⟨false, false⟩⟩,
   .coordinator (.routerAck 0 "caps"), .coordinator (.resume 0),
   .coordinator (.resume 0), .resume 1 0, .coordinator (.resume 0),
   .resume 1 0,
   .connect 1 ⟨"room", ⟨"Ben"⟩, ⟨false, false⟩⟩, .close 1 0,
   .resume 1 1, .resume 1 1]

/-- His session goes on first, and the coordinator refuses him: his client
has run its connected handlers, and hears nothing of the failure. -/
theorem two_outcomes : ∃ s v x, machine.Reachable s ∧
    s.servers.get? 1 = some v ∧ v.sessions.get? 1 = some x ∧
    x.emitted = [.connectionSuccessful, .connectionFailed ""] ∧
    x.client.ran = [.connected] ∧ ¬ x.OneOutcome := by
  obtain ⟨past, s, tr, hr, hp⟩ := Machine.Run.exists_of_exec
    (M := machine) (G := anyStep) (l := joinsTooLate)
    (p := fun r => decide (∃ x ∈ (r.2.1.servers.get? 1).bind
      (fun v => v.sessions.get? 1),
      x.emitted = [.connectionSuccessful, .connectionFailed ""]))
    rfl (by decide)
  obtain ⟨x, hx, hout⟩ := of_decide_eq_true hp
  obtain ⟨v, hv, hx⟩ := Option.bind_eq_some_iff.mp hx
  have hran : x.client.ran = [.connected] := by
    unfold Session.client
    rw [hout]
    rfl
  refine ⟨s, v, x, hr.reachable, hv, hx, hout, hran, fun hone => ?_⟩
  have hmem := hone.2 "" (by simp [hout])
  rw [hran] at hmem
  cases List.mem_singleton.mp hmem

/-- Two clients join one after the other. -/
theorem oneOutcome_of_completesJoins_two : ∃ s v x, machine.Reachable s ∧
    s.servers.get? 1 = some v ∧ v.sessions.get? 1 = some x ∧
    x.stage = .joined ∧ x.OneOutcome := by
  obtain ⟨past, s, tr, hr, hp⟩ := Machine.Run.exists_of_exec
    (M := machine) (G := completesJoins) (l := twoMembers)
    (p := fun r => decide (∃ x ∈ (r.2.1.servers.get? 1).bind
      (fun v => v.sessions.get? 1), x.stage = .joined))
    rfl (by decide)
  obtain ⟨x, hx, hs⟩ := of_decide_eq_true hp
  obtain ⟨v, hv, hx⟩ := Option.bind_eq_some_iff.mp hx
  exact ⟨s, v, x, hr.reachable, hv, hx, hs,
    oneOutcome_of_completesJoins hr hv hx⟩

end Twolk.Signaling
