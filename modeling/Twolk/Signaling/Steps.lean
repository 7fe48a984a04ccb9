/-
  Twolk.Signaling.Steps
  ─────────────────────
  **THE COORDINATOR INSIDE THE SYSTEM.**

  Whatever the signaling servers do, the coordinator runs as the machine of
  its own (`coordinator_projection`): a step is a few of its stretches.  The
  requests a callback publishes are unsubscribes (`deliver_requests`).
-/
import Twolk.Coordinator.Turns
import Twolk.Signaling.System

namespace Twolk.Signaling

open Twolk.Lib Coordinator

namespace System

/-! ## §1. Callbacks leave the coordinator alone. -/

/-- From `s` to `s'` only servers changed. -/
structure ServerFrame (s s' : System) : Prop where
  coordinator : s'.coordinator = s.coordinator
  out : s'.out = s.out

theorem ServerFrame.trans {s s' s'' : System} (h : ServerFrame s s')
    (h' : ServerFrame s' s'') : ServerFrame s s'' :=
  ⟨h'.coordinator.trans h.coordinator, h'.out.trans h.out⟩

/-- An ack callback touches nothing but its server. -/
theorem onAck_frame (s : System) (p : Publisher) (resp : Response) :
    ServerFrame s (s.onAck p resp).1 := by
  unfold onAck
  split
  · exact ⟨rfl, rfl⟩
  · exact ⟨rfl, rfl⟩
  · exact ⟨rfl, rfl⟩
  · exact ⟨rfl, rfl⟩
  · split <;> exact ⟨rfl, rfl⟩
  · exact ⟨rfl, rfl⟩

/-- Nor does a nack callback. -/
theorem onNack_frame (s : System) (sync : Bool) (message : String)
    (p : Publisher) : ServerFrame s (s.onNack sync message p) := by
  unfold onNack
  split
  · split <;> exact ⟨rfl, rfl⟩
  · split <;> exact ⟨rfl, rfl⟩
  · exact ⟨rfl, rfl⟩

theorem deliver_frame (sync : Bool) (s : System) (o : Out Publisher) :
    ServerFrame s (s.deliver sync o).1 := by
  unfold deliver
  split
  · exact onAck_frame s _ _
  · exact onNack_frame s sync _ _
  · exact ⟨rfl, rfl⟩
  · exact ⟨rfl, rfl⟩

/-- A request that a callback publishes. -/
def IsUnsubscribe (a : Request) : Prop :=
  ∃ serverId spaceUuid, a = .unsubscribeFromSpaceRequest serverId spaceUuid
    (.deleteSpace serverId spaceUuid)

theorem onMemberDeleted_request {v : Server} {serverId : ServerId}
    {memberId : MemberId} {a : Request}
    (h : (v.onMemberDeleted serverId memberId).2 = some a) :
    IsUnsubscribe a := by
  unfold Server.onMemberDeleted at h
  split at h
  · cases h
  · dsimp only at h
    split at h
    · cases h
    · dsimp only at h
      split at h
      · unfold Server.deleteSpace at h
        split at h
        · cases h
        · split at h
          · cases h
          · cases h
            exact ⟨serverId, _, rfl⟩
      · cases h

/-- **Callbacks publish unsubscribes only.** -/
theorem deliver_requests {sync : Bool} {s : System} {o : Out Publisher}
    {a : Request} (h : (s.deliver sync o).2 = some a) : IsUnsubscribe a := by
  unfold deliver at h
  split at h
  · unfold onAck at h
    split at h
    · cases h
    · cases h
    · obtain ⟨v, -, h⟩ := Option.bind_eq_some_iff.mp h
      exact onMemberDeleted_request h
    · cases h
    · split at h <;> cases h
    · cases h
  · cases h
  · cases h
  · cases h

/-- Delivering the coordinator's messages changes servers only, and asks it to
unsubscribe at most. -/
theorem deliverAll_spec (sync : Bool) (s : System)
    (out : List (Out Publisher)) :
    ServerFrame s (deliverAll sync s out).1 ∧
      ∀ a ∈ (deliverAll sync s out).2, IsUnsubscribe a := by
  have hfold : ∀ (l : List (Out Publisher)) (p : System × List Request),
      ServerFrame s p.1 → (∀ a ∈ p.2, IsUnsubscribe a) →
      ServerFrame s (l.foldl (fun p o => ((p.1.deliver sync o).1,
        p.2 ++ (p.1.deliver sync o).2.toList)) p).1 ∧
      ∀ a ∈ (l.foldl (fun p o => ((p.1.deliver sync o).1,
        p.2 ++ (p.1.deliver sync o).2.toList)) p).2, IsUnsubscribe a := by
    intro l
    induction l with
    | nil => exact fun p hf ha => ⟨hf, ha⟩
    | cons o l ih =>
      intro p hf ha
      refine ih _ (hf.trans (deliver_frame sync p.1 o)) fun a hm => ?_
      rcases List.mem_append.mp hm with hm | hm
      · exact ha a hm
      · exact deliver_requests (Option.mem_toList.mp hm)
  exact hfold out (s, []) ⟨rfl, rfl⟩ (by simp)

/-! ## §2. Stretches. -/

/-- A stretch of the coordinator inside the system is one of its own. -/
theorem stretch_step {sync : Bool} {s s' : System} {a : Request}
    {reqs : List Request} (h : s.stretch sync a = some (s', reqs)) :
    ∃ obs, (Coordinator.machine Publisher).step s.coordinator a
        = some (s'.coordinator, obs) ∧ s'.out = s.out ++ obs ∧
      ∀ a ∈ reqs, IsUnsubscribe a := by
  obtain ⟨c, hc, heq⟩ := Option.map_eq_some_iff.mp h
  have hspec := deliverAll_spec sync
    { s with coordinator := c, out := s.out ++ c.out }
    (c.out.filter Out.heard)
  rw [heq] at hspec
  obtain ⟨hframe, hreqs⟩ := hspec
  refine ⟨c.out, ?_, hframe.out, hreqs⟩
  show (Coord.act { s.coordinator with out := [] } a).map _ = _
  rw [hc, hframe.coordinator]
  rfl

/-- What the stretches of one step keep, the requests of callbacks
included. -/
theorem run_induction {sync : Bool} {s s' : System} {a : Request}
    (I : System → Prop) (h : s.run sync a = some s') (hs : I s)
    (outer : ∀ s' reqs, I s → s.stretch sync a = some (s', reqs) → I s')
    (inner : ∀ t t' b reqs, IsUnsubscribe b → I t →
      t.stretch true b = some (t', reqs) → I t') : I s' := by
  obtain ⟨p, hp, rfl⟩ := Option.map_eq_some_iff.mp h
  obtain ⟨t, reqs⟩ := p
  obtain ⟨-, -, -, hreqs⟩ := stretch_step hp
  have hfold : ∀ (l : List Request) (t : System),
      (∀ b ∈ l, IsUnsubscribe b) → I t → I (l.foldl publishInner t) := by
    intro l
    induction l with
    | nil => exact fun t _ ht => ht
    | cons b l ih =>
      intro t hl ht
      refine ih _ (fun b' hb' => hl b' (List.mem_cons_of_mem _ hb')) ?_
      unfold publishInner
      split
      · exact ht
      · rename_i t' reqs' ht'
        exact inner t t' b reqs' (hl b List.mem_cons_self) ht ht'
  exact hfold reqs t hreqs (outer t reqs hs hp)

/-- A server function that publishes changes its own server first. -/
theorem publish_eq {s s' : System} {serverId : ServerId} {v : Server}
    {req : Option Request} (h : s.publish serverId (v, req) = some s') :
    (req = none ∧ s' = { s with servers := s.servers.set serverId v }) ∨
      ∃ a, req = some a ∧
        run true { s with servers := s.servers.set serverId v } a
          = some s' := by
  cases req with
  | none =>
      cases h
      exact .inl ⟨rfl, rfl⟩
  | some a => exact .inr ⟨a, rfl, h⟩

/-! ## §3. Every action. -/

/-- What `server` does for an action: its new state, and the request it
publishes. -/
inductive ServerCall (serverId : ServerId) (v : Server) :
    SystemAction → Server × Option Request → Prop
  | connect (auth : Auth) :
      ServerCall serverId v (.connect serverId auth) (v.start serverId auth)
  | resume {session : SessionId} {x : Session} {p : Server × Option Request}
      (hx : v.sessions.get? session = some x)
      (hp : v.resume serverId session x = some p) :
      ServerCall serverId v (.resume serverId session) p
  | close {session : SessionId} {x : Session}
      (hx : v.sessions.get? session = some x) (ho : x.isOpen = true) :
      ServerCall serverId v (.close serverId session)
        (v.close serverId session x)
  | updateMemberState {session : SessionId} {x : Session}
      {memberId : MemberId} (newState : MemberStateUpdate) (cId : String)
      (hx : v.sessions.get? session = some x) (ho : x.isOpen = true)
      (hm : x.listening = some memberId) :
      ServerCall serverId v
        (.updateMemberState serverId session newState cId)
        (v.updateMemberState session memberId newState cId, none)
  | forward {session : SessionId} {x : Session} {memberId : MemberId}
      (event : ForwardedEvent) (cId : String)
      (hx : v.sessions.get? session = some x) (ho : x.isOpen = true)
      (hm : x.listening = some memberId) :
      ServerCall serverId v (.forward serverId session event cId)
        (v, some (.spaceUpdateStream x.auth.spaceUuid
          (event.toUpdate memberId)
          (.forward serverId session event cId)))

/-- What the server publishes for an action. -/
inductive Requests (serverId : ServerId) (v : Server) :
    SystemAction → Request → Prop
  | subscribe (auth : Auth) :
      Requests serverId v (.connect serverId auth)
        (.subscribeToSpaceRequest serverId auth.spaceUuid
          (.prepareSpace serverId v.sessionIdGen auth.spaceUuid))
  | addMember {session : SessionId} {x : Session}
      (hx : v.sessions.get? session = some x)
      (hp : x.phase = .preparingSpace (some (.ok ()))) :
      Requests serverId v (.resume serverId session)
        (.addMemberRequest serverId x.auth.spaceUuid x.auth.memberData
          { x.auth.memberState with transportIsConnected := false }
          (.prepareMember serverId session x.auth.spaceUuid
            x.auth.memberData
            { x.auth.memberState with transportIsConnected := false }))
  | removeMember {session : SessionId} {x : Session} {memberId : MemberId}
      (hx : v.sessions.get? session = some x)
      (hm : x.memberId = some memberId) :
      Requests serverId v (.close serverId session)
        (.removeMemberRequest memberId (.deleteMember serverId memberId))
  | forward {session : SessionId} {x : Session} {memberId : MemberId}
      (event : ForwardedEvent) (cId : String)
      (hx : v.sessions.get? session = some x)
      (hm : x.listening = some memberId) :
      Requests serverId v (.forward serverId session event cId)
        (.spaceUpdateStream x.auth.spaceUuid (event.toUpdate memberId)
          (.forward serverId session event cId))

theorem ServerCall.requests {serverId : ServerId} {v v' : Server}
    {a : SystemAction} {b : Request}
    (h : ServerCall serverId v a (v', some b)) : Requests serverId v a b := by
  generalize hp : (v', some b) = p at h
  cases h with
  | connect auth =>
      unfold Server.start Server.prepareSpace at hp
      dsimp only at hp
      split at hp
      · cases hp
      · cases hp
        exact .subscribe auth
  | @resume session x _ hx hres =>
      subst hp
      unfold Server.resume at hres
      split at hres
      · cases hres
      · rename_i hphase
        unfold Server.resumeSpace Server.prepareMember at hres
        split at hres
        · cases hres
          exact .addMember hx hphase
        · cases hres
      · cases hres
      · cases hres
      · cases hres
  | @close session x hx ho =>
      unfold Server.close at hp
      dsimp only at hp
      split at hp
      · cases hp
      · rename_i memberId hm
        unfold Server.deleteMember at hp
        split at hp
        · cases hp
          exact .removeMember hx hm
        · cases hp
  | updateMemberState => cases hp
  | @forward session x m event cId hx ho hm =>
      cases hp
      exact .forward event cId hx hm

/-- What an action of the system does. -/
inductive Acts (s : System) : SystemAction → System → Prop
  | started {serverId : ServerId} (hn : s.servers.get? serverId = none) :
      Acts s (.startServer serverId)
        { s with servers := s.servers.set serverId .initial }
  | called {serverId : ServerId} {v : Server} {a : SystemAction}
      {p : Server × Option Request} {s' : System}
      (hv : s.servers.get? serverId = some v)
      (hc : ServerCall serverId v a p) (h : s.publish serverId p = some s') :
      Acts s a s'
  | coordinator {a : Request} {s' : System} (ha : ofServer a = false)
      (h : s.run false a = some s') : Acts s (.coordinator a) s'

/-- Every action is one of these. -/
theorem act_acts {s s' : System} {a : SystemAction}
    (h : s.act a = some s') : Acts s a s' := by
  -- a server's own actions are calls of it
  cases a with
  | startServer serverId =>
      simp only [act] at h
      split at h
      · cases h
      · rename_i hn
        rw [Bool.not_eq_true, JsMap.has_eq_false_iff] at hn
        cases h
        exact .started hn
  | connect serverId auth =>
      obtain ⟨v, hv, h⟩ := Option.bind_eq_some_iff.mp h
      exact .called hv (.connect auth) h
  | resume serverId session =>
      obtain ⟨v, hv, h⟩ := Option.bind_eq_some_iff.mp h
      obtain ⟨x, hx, h⟩ := Option.bind_eq_some_iff.mp h
      obtain ⟨p, hp, h⟩ := Option.bind_eq_some_iff.mp h
      exact .called hv (.resume hx hp) h
  | close serverId session =>
      obtain ⟨v, hv, h⟩ := Option.bind_eq_some_iff.mp h
      obtain ⟨x, hx, h⟩ := Option.bind_eq_some_iff.mp h
      split at h
      · rename_i ho
        exact .called hv (.close hx ho) h
      · cases h
  | updateMemberState serverId session newState cId =>
      obtain ⟨v, hv, h⟩ := Option.bind_eq_some_iff.mp h
      obtain ⟨x, hx, h⟩ := Option.bind_eq_some_iff.mp h
      split at h
      · rename_i ho
        obtain ⟨m, hm, h⟩ := Option.bind_eq_some_iff.mp h
        exact .called hv (.updateMemberState newState cId hx ho hm) h
      · cases h
  | forward serverId session event cId =>
      obtain ⟨v, hv, h⟩ := Option.bind_eq_some_iff.mp h
      obtain ⟨x, hx, h⟩ := Option.bind_eq_some_iff.mp h
      split at h
      · rename_i ho
        obtain ⟨m, hm, h⟩ := Option.bind_eq_some_iff.mp h
        exact .called hv (.forward event cId hx ho hm) h
      · cases h
  -- the rest are the coordinator's
  | coordinator a =>
      simp only [act] at h
      split at h
      · cases h
      · rename_i ha
        exact .coordinator (Bool.eq_false_of_not_eq_true ha) h

/-! ## §4. The coordinator as a component. -/

/-- The coordinator makes ordinary steps throughout. -/
theorem run_reachable {sync : Bool} {s s' : System} {a : Request}
    (h : s.run sync a = some s')
    (hr : (Coordinator.machine Publisher).Reachable s.coordinator) :
    (Coordinator.machine Publisher).Reachable s'.coordinator := by
  have hstep : ∀ {sync : Bool} {t t' : System} {b : Request}
      {reqs : List Request},
      (Coordinator.machine Publisher).Reachable t.coordinator →
      t.stretch sync b = some (t', reqs) →
      (Coordinator.machine Publisher).Reachable t'.coordinator := by
    intro sync t t' b reqs ht hb
    obtain ⟨obs, hobs, -⟩ := stretch_step hb
    exact ht.step hobs
  exact run_induction
    (fun t => (Coordinator.machine Publisher).Reachable t.coordinator) h hr
    (fun _ _ ht hb => hstep ht hb) fun _ _ _ _ _ ht hb => hstep ht hb

/-- **The coordinator of the system runs as the coordinator machine.** -/
theorem coordinator_projection :
    machine.Projection (Coordinator.machine Publisher)
      System.coordinator where
  init s hs := by
    obtain rfl : s = System.initial := hs
    rfl
  step s a s' obs hs hr := by
    obtain ⟨t, ht, heq⟩ := Option.map_eq_some_iff.mp hs
    cases heq
    cases act_acts ht with
    | started => exact hr
    | @called _ _ _ p _ hv hc h =>
        rcases publish_eq h with ⟨-, rfl⟩ | ⟨b, -, h⟩
        · exact hr
        · exact run_reachable h hr
    | coordinator ha h => exact run_reachable h hr

/-- In every reachable state of the system the coordinator's is reachable. -/
theorem coordinator_reachable {s : System} (h : machine.Reachable s) :
    (Coordinator.machine Publisher).Reachable s.coordinator :=
  coordinator_projection.reachable h

end System

end Twolk.Signaling
