/-
  Twolk.Signaling.Points
  ──────────────────────
  **THE POINTS OF A RUN.**

  A step of the system is a server function, or an action of the
  coordinator, and then one move after the other until nothing is left to
  publish.  `Point G s reqs` says that a run whose steps meet `G` passes
  through `s`, with `reqs` still to be published in the current step; what
  holds of every run is proved by induction on its points.

  Main results:
    * `Point.linked`     — every point is linked, its coordinator reachable,
    * `Closed.step`      — what the parts of a step keep, the step keeps,
    * `Run.point`        — a run ends in a point with nothing left,
    * `Move.callback`    — what a move does to one server,
    * `Point.server`     — what every server function and callback keeps.
-/
import Twolk.Signaling.Moves

namespace Twolk.Signaling

open Twolk.Lib Coordinator

namespace System

/-! ## §1. Points. -/

/-- A run under `G` comes to `s`, with `reqs` left to publish. -/
inductive Point (G : Guard System SystemAction (Out Publisher)) :
    System → List Request → Prop
  | initial : Point G .initial []
  | flushed {s : System} {reqs : List Request} (out : List (Out Publisher))
      (h : Point G s reqs) : Point G { s with out } reqs
  | started {s : System} {serverId : ServerId} (h : Point G s [])
      (hn : s.servers.get? serverId = none) :
      Point G { s with servers := s.servers.set serverId .initial } []
  /-- A server function runs. -/
  | called {tr : List (Out Publisher)} {s : System} {serverId : ServerId}
      {v : Server} {a : SystemAction} {p : Server × Option Request}
      (h : Point G s []) (hg : G tr s a)
      (hv : s.servers.get? serverId = some v)
      (hc : ServerCall serverId v a p) :
      Point G { s with servers := s.servers.set serverId p.1 } p.2.toList
  /-- A published request runs. -/
  | published {s s' : System} {b : Request} {reqs reqs' : List Request}
      (h : Point G s (b :: reqs)) (hready : Ready s true b)
      (hm : Move s b s' reqs') (ha : s.base.act b = some s'.coordinator) :
      Point G s' (reqs' ++ reqs)
  | coordinated {tr : List (Out Publisher)} {s s' : System} {b : Request}
      {reqs : List Request} (h : Point G s [])
      (hg : G tr s (.coordinator b)) (hready : Ready s false b)
      (hm : Move s b s' reqs) (ha : s.base.act b = some s'.coordinator) :
      Point G s' reqs

variable {G : Guard System SystemAction (Out Publisher)}

/-- The coordinator has done one step. -/
theorem reachable_act {s s' : System} {b : Request}
    (hr : (Coordinator.machine Publisher).Reachable s.coordinator)
    (ha : s.base.act b = some s'.coordinator) :
    (Coordinator.machine Publisher).Reachable s'.coordinator := by
  have hs : (Coordinator.machine Publisher).step s.coordinator b
      = some (s'.coordinator, s'.coordinator.out) := by
    show (Coord.act s.base b).map _ = _
    rw [ha]
    rfl
  exact hr.step hs

/-- At every point of a run the coordinator is in a reachable state. -/
theorem Point.reachable {s : System} {reqs : List Request}
    (h : Point G s reqs) :
    (Coordinator.machine Publisher).Reachable s.coordinator := by
  induction h with
  | initial => exact ⟨[], [], .init rfl⟩
  | flushed _ _ ih => exact ih
  | started _ _ ih => exact ih
  | called _ _ _ _ ih => exact ih
  | published _ _ _ ha ih => exact reachable_act ih ha
  | coordinated _ _ _ _ ha ih => exact reachable_act ih ha

theorem linked_initial : Linked .initial where
  waiting _ hw := absurd hw List.not_mem_nil
  distinct := List.nodup_nil
  updates _ _ hr := nomatch hr
  fresh _ _ _ _ hv _ := nomatch hv

theorem Linked.flushed {s : System} (h : Linked s)
    (out : List (Out Publisher)) : Linked { s with out } where
  waiting w hw := by
    cases h.waiting w hw with
    | subscribe hx hp => exact .subscribe hx hp
    | unsubscribe => exact .unsubscribe _ _
    | addMember hx hp => exact .addMember hx hp
  distinct := h.distinct
  updates := h.updates
  fresh := h.fresh

/-- **Every point of a run is linked.** -/
theorem Point.linked {s : System} {reqs : List Request}
    (h : Point G s reqs) : Linked s := by
  induction h with
  | initial => exact linked_initial
  | flushed out _ ih => exact ih.flushed out
  | started _ hn ih => exact ih.started hn
  | called _ _ hv hc ih => exact ih.called hv hc
  | published _ hready hm _ ih => exact hm.linked ih hready
  | coordinated _ _ hready hm _ ih => exact hm.linked ih hready

/-! ## §2. Runs go through points. -/

/-- `J` is kept by the requests that run inside `publish`. -/
structure Published (J : System → List Request → Prop) : Prop where
  linked : ∀ {s reqs}, J s reqs → Linked s
  reachable : ∀ {s reqs}, J s reqs →
    (Coordinator.machine Publisher).Reachable s.coordinator
  published : ∀ {s s' b reqs reqs'}, J s (b :: reqs) → Ready s true b →
    Move s b s' reqs' → s.base.act b = some s'.coordinator →
    J s' (reqs' ++ reqs)

/-- `J` is kept by everything a step under `G` is made of. -/
structure Closed (G : Guard System SystemAction (Out Publisher))
    (J : System → List Request → Prop) : Prop extends Published J where
  flushed : ∀ {s reqs} (out : List (Out Publisher)), J s reqs →
    J { s with out } reqs
  started : ∀ {tr s serverId}, J s [] → G tr s (.startServer serverId) →
    s.servers.get? serverId = none →
    J { s with servers := s.servers.set serverId .initial } []
  called : ∀ {tr s serverId v a p}, J s [] → G tr s a →
    s.servers.get? serverId = some v → ServerCall serverId v a p →
    J { s with servers := s.servers.set serverId p.1 } p.2.toList
  coordinated : ∀ {tr s s' b reqs}, J s [] → G tr s (.coordinator b) →
    Ready s false b → Move s b s' reqs →
    s.base.act b = some s'.coordinator → J s' reqs

/-- The points of guarded runs are closed under steps and the moves within
them. -/
theorem Point.closed : Closed G (Point G) where
  linked h := h.linked
  reachable h := h.reachable
  flushed out h := h.flushed out
  started h _ hn := h.started hn
  called h hg hv hc := h.called hg hv hc
  published h hready hm ha := h.published hready hm ha
  coordinated h hg hready hm ha := h.coordinated hg hready hm ha

/-- An unsubscribe is always enabled, and publishes nothing in turn. -/
theorem stretch_unsubscribe {s : System} {b : Request}
    (hb : IsUnsubscribe b) : ∃ s' reqs, s.stretch true b = some (s', reqs) := by
  obtain ⟨serverId, uuid, rfl⟩ := hb
  exact ⟨_, _, rfl⟩

/-- Only the ack of a removal publishes. -/
theorem Move.requests_nil_of_ne {s s' : System} {b : Request}
    {reqs : List Request} (hb : ∀ id cb, b ≠ .removeMemberRequest id cb)
    (h : Move s b s' reqs) : reqs = [] := by
  cases h with
  | removed => exact absurd rfl (hb _ _)
  | _ => rfl

/-- An unsubscription makes no further request. -/
theorem Move.requests_nil {s s' : System} {b : Request}
    {reqs : List Request} (hb : IsUnsubscribe b) (h : Move s b s' reqs) :
    reqs = [] := by
  obtain ⟨serverId, uuid, rfl⟩ := hb
  exact h.requests_nil_of_ne (by simp)

/-- The outbox has no part in a move. -/
theorem Move.of_flushed {s s' : System} {b : Request} {reqs : List Request}
    {out : List (Out Publisher)} (h : Move { s with out } b s' reqs) :
    Move s b s' reqs := by
  cases h with
  | quiet hq h hv => exact .quiet hq h hv
  | announced hb ha h hv => exact .announced hb ha h hv
  | rejected hw h hv => exact .rejected hw h hv
  | asked hw hs hk h hv => exact .asked hw hs hk h hv
  | forwarded hr h hv => exact .forwarded hr h hv
  | unsubscribing h hv => exact .unsubscribing h hv
  | removed hm hh h hv => exact .removed hm hh h hv
  | abandoned h hv => exact .abandoned h hv
  | subscribed hx hp hs h hv => exact .subscribed hx hp hs h hv
  | unsubscribed hi h hv => exact .unsubscribed hi h hv
  | added hx hp hk h hv => exact .added hx hp hk h hv
  | updated hr hcb ha h hv => exact .updated hr hcb ha h hv
  | updateNacked hr h hv => exact .updateNacked hr h hv

/-- What the coordinator did in a stretch. -/
theorem stretch_act {sync : Bool} {s s' : System} {b : Request}
    {reqs : List Request} (h : s.stretch sync b = some (s', reqs)) :
    s.base.act b = some s'.coordinator ∧
      s'.out = s.out ++ s'.coordinator.out := by
  obtain ⟨obs, hstep, hout, -⟩ := stretch_step h
  obtain ⟨c, hc, heq⟩ := Option.map_eq_some_iff.mp hstep
  cases heq
  exact ⟨hc, hout⟩

namespace Published

variable {J : System → List Request → Prop}

/-- The requests of callbacks, one after the other. -/
theorem publishInner (hJ : Published J) :
    ∀ {reqs : List Request} {s : System}, (∀ b ∈ reqs, IsUnsubscribe b) →
      J s reqs → J (reqs.foldl System.publishInner s) []
  | [], _, _, h => h
  | b :: reqs, s, hreqs, h => by
      have hb := hreqs b List.mem_cons_self
      obtain ⟨s', reqs', hs⟩ := stretch_unsubscribe (s := s) hb
      have hready : Ready s true b := by
        obtain ⟨serverId, uuid, rfl⟩ := hb
        exact .unsubscribe serverId uuid
      have hm := stretch_move (hJ.linked h) (hJ.reachable h) hready hs
      have hnext := hJ.published h hready hm (stretch_act hs).1
      rw [hm.requests_nil hb, List.nil_append] at hnext
      have heq : s.publishInner b = s' := by
        unfold System.publishInner
        rw [hs]
      rw [List.foldl_cons, heq]
      exact hJ.publishInner
        (fun b' hb' => hreqs b' (List.mem_cons_of_mem _ hb')) hnext

/-- A published request, with all that it starts at once. -/
theorem run (hJ : Published J) {s s' : System} {b : Request} (h : J s [b])
    (hready : Ready s true b) (hs : s.run true b = some s') : J s' [] := by
  obtain ⟨⟨t, reqs⟩, ht, rfl⟩ := Option.map_eq_some_iff.mp hs
  obtain ⟨obs, -, -, hreqs⟩ := stretch_step ht
  have hm := stretch_move (hJ.linked h) (hJ.reachable h) hready ht
  have hnext := hJ.published h hready hm (stretch_act ht).1
  rw [List.append_nil] at hnext
  exact hJ.publishInner hreqs hnext

/-- What a server function publishes, with all that it starts at once. -/
theorem publish (hJ : Published J) {s s' : System} {serverId : ServerId}
    {v : Server} {a : SystemAction} {p : Server × Option Request}
    (hL : Linked s) (hv : s.servers.get? serverId = some v)
    (hc : ServerCall serverId v a p)
    (h : J { s with servers := s.servers.set serverId p.1 } p.2.toList)
    (hpub : s.publish serverId p = some s') : J s' [] := by
  obtain ⟨v', req⟩ := p
  rcases publish_eq hpub with ⟨rfl, rfl⟩ | ⟨b, rfl, hrun⟩
  · exact h
  · exact hJ.run h (ready_of_call hL hv hc) hrun

end Published

namespace Closed

variable {J : System → List Request → Prop}

/-- **What its parts keep, a step keeps.** -/
theorem step (hJ : Closed G J) {s s' : System} {a : SystemAction}
    {tr obs : List (Out Publisher)} (h : J s []) (hg : G tr s a)
    (hs : machine.step s a = some (s', obs)) : J s' [] := by
  obtain ⟨t, ht, heq⟩ := Option.map_eq_some_iff.mp hs
  cases heq
  cases act_acts ht with
  | started hn => exact hJ.flushed [] (hJ.started h hg hn)
  | @called serverId v _ p _ hv hc hpub =>
      have hnext := hJ.flushed [] (hJ.called h hg hv hc)
      exact hJ.publish ((hJ.linked h).flushed []) hv hc hnext hpub
  | @coordinator b _ ha hrun =>
      obtain ⟨⟨t', reqs⟩, ht', rfl⟩ := Option.map_eq_some_iff.mp hrun
      obtain ⟨obs, -, -, hreqs⟩ := stretch_step ht'
      have hr := hJ.reachable h
      have hm := stretch_move ((hJ.linked h).flushed []) hr
        (.coordinator ha) ht'
      have hact := (stretch_act ht').1
      have hnext := hJ.coordinated h hg (.coordinator ha) hm.of_flushed hact
      exact hJ.publishInner hreqs hnext

end Closed

/-- Every step leads from one point of a run to another. -/
theorem Point.step {s s' : System} {a : SystemAction}
    {obs : List (Out Publisher)} (h : Point anyStep s [])
    (hs : machine.step s a = some (s', obs)) : Point anyStep s' [] := by
  have hg : anyStep ([] : List (Out Publisher)) s a := trivial
  exact Point.closed.step h hg hs

/-- **A run ends in a point with nothing left to publish.** -/
theorem Run.point {past : List System} {s : System}
    {tr : List (Out Publisher)} (h : machine.Run G past s tr) :
    Point G s [] := by
  induction h with
  | init h =>
      cases h
      exact .initial
  | step _ hg hs ih => exact Point.closed.step ih hg hs

/-! ## §3. One server. -/

/-- What a server does in a move that adds and removes no member; `c` is the
coordinator before it. -/
inductive Relays (c : Coord Publisher) (v : Server) : Server → Prop
  | heard (heard : List (Out Publisher)) : Relays c v (heard.foldl hears v)
  | acked {event : ForwardedEvent} {cId : String} {resp : Response}
      {e : ServerToClientEvent} (session : SessionId)
      (he : event.ackEvent cId resp = some e)
      (heard : List (Out Publisher)) :
      Relays c v (heard.foldl hears (v.emit session e))
  | rejected (session : SessionId) (error : String) :
      Relays c v (v.reject session error)
  | spacePrepared {session : SessionId} {x : Session}
      {space : Coordinator.Space} (rtpCapabilities : Json)
      (hx : v.sessions.get? session = some x)
      (hp : x.phase = .preparingSpace none)
      (hs : c.spaces.get? x.auth.spaceUuid = some space) :
      Relays c v (v.onSpacePrepared session x.auth.spaceUuid
        ⟨x.auth.spaceUuid, space.data, SpaceService.clientSideMembers c space⟩
        rtpCapabilities)
  | spaceDeleted (uuid : Uuid) : Relays c v (v.removeSpace uuid)

/-- What a move does to one server. -/
inductive Callback (c : Coord Publisher) (serverId : ServerId)
    (v : Server) : Server → Prop
  | relayed {v' : Server} (h : Relays c v v') : Callback c serverId v v'
  | memberPrepared {session : SessionId} {x : Session}
      (hx : v.sessions.get? session = some x)
      (hp : x.phase = .preparingMember none) :
      Callback c serverId v (v.onMemberPrepared session x.auth.spaceUuid
        x.auth.memberData x.auth.joinState c.memberIdGen)
  | memberDeleted {memberId : MemberId}
      (hm : v.memberIdToChannel.get? memberId = none) :
      Callback c serverId v (v.onMemberDeleted serverId memberId).1

/-- What a move does to the members of the coordinator, and to the servers
with them. -/
inductive Transfers (s s' : System) : Request → Prop
  | relayed {b : Request}
      (h : MemberFrame s.coordinator s'.coordinator)
      (hv : ∀ serverId v', s'.servers.get? serverId = some v' →
        ∃ v, s.servers.get? serverId = some v ∧
          Relays s.coordinator v v') : Transfers s s' b
  | removed {serverId : ServerId} {memberId : MemberId}
      {member : Coordinator.Member}
      (hm : memberId ∈ s.coordinator.members.keys)
      (hh : s.coordinator.memberHeap.get? memberId = some member)
      (hn : ∀ v, s.servers.get? serverId = some v →
        v.memberIdToChannel.get? memberId = none)
      (h : MemberFrame (MemberService.remove s.coordinator memberId member)
        s'.coordinator)
      (hv : s'.servers = s.servers.modify serverId
        fun v => (v.onMemberDeleted serverId memberId).1) :
      Transfers s s' (.removeMemberRequest memberId
        (.deleteMember serverId memberId))
  | added {b : Request} {serverId : ServerId} {session : SessionId}
      {x : Session} (hx : s.sessionOf serverId session = some x)
      (hp : x.phase = .preparingMember none)
      (hk : s.coordinator.statusOf x.auth.spaceUuid ≠ none)
      (h : MemberFrame (MemberService.add s.coordinator x.auth.memberData
        x.auth.joinState x.auth.spaceUuid) s'.coordinator)
      (hv : s'.servers = s.servers.modify serverId
        fun v => v.onMemberPrepared session x.auth.spaceUuid
          x.auth.memberData x.auth.joinState s.coordinator.memberIdGen) :
      Transfers s s' b

theorem Relays.refl (c : Coord Publisher) (v : Server) : Relays c v v :=
  .heard []

/-- A callback of one server leaves the others. -/
theorem relays_modify {s s' : System} {serverId serverId' : ServerId}
    {f : Server → Server} {v' : Server}
    (h : ∀ v, s.servers.get? serverId = some v →
      Relays s.coordinator v (f v))
    (hv : s'.servers = s.servers.modify serverId f)
    (hv' : s'.servers.get? serverId' = some v') :
    ∃ v, s.servers.get? serverId' = some v ∧
      Relays s.coordinator v v' := by
  rw [hv, JsMap.get?_modify] at hv'
  by_cases heq : serverId' = serverId
  · rw [if_pos heq] at hv'
    obtain ⟨v, hget, rfl⟩ := Option.map_eq_some_iff.mp hv'
    rw [heq]
    exact ⟨v, hget, h v hget⟩
  · rw [if_neg heq] at hv'
    exact ⟨v', hv', .refl _ _⟩

/-- A session is found at its server. -/
theorem get?_of_sessionOf {s : System} {serverId : ServerId}
    {session : SessionId} {x : Session} {v : Server}
    (hx : s.sessionOf serverId session = some x)
    (hv : s.servers.get? serverId = some v) :
    v.sessions.get? session = some x := by
  rwa [sessionOf, hv] at hx

/-- **What a move does to members and servers.** -/
theorem Move.transfers {sync : Bool} {s s' : System} {b : Request}
    {reqs : List Request} (hready : Ready s sync b)
    (h : Move s b s' reqs) : Transfers s s' b := by
  have hsame : s'.servers = s.servers → ∀ serverId v',
      s'.servers.get? serverId = some v' →
      ∃ v, s.servers.get? serverId = some v ∧
        Relays s.coordinator v v' := by
    intro hv serverId v' hv'
    rw [hv] at hv'
    exact ⟨v', hv', .refl _ _⟩
  cases h with
  | quiet _ h hv => exact .relayed { h.frame.members with } (hsame hv)
  | asked _ _ _ h hv => exact .relayed { h.frame.members with } (hsame hv)
  | forwarded _ h hv => exact .relayed { h.frame.members with } (hsame hv)
  | unsubscribing h hv => exact .relayed { h.frame.members with } (hsame hv)
  | abandoned h hv => exact .relayed { h.frame.members with } (hsame hv)
  | updateNacked _ h hv => exact .relayed { h.frame.members with } (hsame hv)
  | @announced _ _ heard _ _ h hv =>
      refine .relayed { h.frame.members with } fun serverId v' hv' => ?_
      rw [hv, announce, JsMap.get?_mapVal] at hv'
      obtain ⟨v, hget, rfl⟩ := Option.map_eq_some_iff.mp hv'
      exact ⟨v, hget, .heard heard⟩
  | rejected _ h hv =>
      exact .relayed { h.frame.members with } fun _ _ =>
        relays_modify (fun _ _ => .rejected _ _) hv
  | removed hm hh h hv =>
      cases hready with
      | removeMember hn => exact .removed hm hh hn { h.frame.members with } hv
      | coordinator ha => cases ha
  | subscribed hx hp hs h hv =>
      refine .relayed { h.frame.members with } fun _ _ => relays_modify ?_ hv
      intro v hget
      exact .spacePrepared _ (get?_of_sessionOf hx hget) hp hs
  | unsubscribed _ h hv =>
      exact .relayed { h.frame.members with } fun _ _ =>
        relays_modify (fun _ _ => .spaceDeleted _) hv
  | added hx hp hk h hv => exact .added hx hp hk { h.frame.members with } hv
  | @updated _ _ _ _ serverId session event cId resp heard _ _ _ h hv =>
      refine .relayed { h.frame.members with } fun serverId' v' hv' => ?_
      rw [hv, announce, JsMap.get?_mapVal] at hv'
      obtain ⟨v, hget, rfl⟩ := Option.map_eq_some_iff.mp hv'
      -- the session that sent the update may hear of it first
      cases he : event.ackEvent cId resp with
      | none =>
          rw [he] at hget
          exact ⟨v, hget, .heard heard⟩
      | some e =>
          rw [he, JsMap.get?_modify] at hget
          by_cases heq : serverId' = serverId
          · rw [if_pos heq] at hget
            obtain ⟨u, hu, rfl⟩ := Option.map_eq_some_iff.mp hget
            rw [heq]
            exact ⟨u, hu, .acked session he heard⟩
          · rw [if_neg heq] at hget
            exact ⟨v, hget, .heard heard⟩

/-- **What a move does to a server is a callback.** -/
theorem Move.callback {sync : Bool} {s s' : System} {b : Request}
    {reqs : List Request} (hready : Ready s sync b) (h : Move s b s' reqs)
    {serverId : ServerId} {v' : Server}
    (hv' : s'.servers.get? serverId = some v') :
    ∃ v, s.servers.get? serverId = some v ∧
      Callback s.coordinator serverId v v' := by
  cases h.transfers hready with
  | relayed _ hv =>
      obtain ⟨v, hget, h⟩ := hv serverId v' hv'
      exact ⟨v, hget, .relayed h⟩
  | removed _ _ hn _ hv =>
      rw [hv] at hv'
      rcases JsMap.get?_modify_cases hv' with ⟨rfl, v, hget, rfl⟩ | ⟨-, hget⟩
      · exact ⟨v, hget, .memberDeleted (hn v hget)⟩
      · exact ⟨v', hget, .relayed (.refl _ _)⟩
  | added hx hp _ _ hv =>
      rw [hv] at hv'
      rcases JsMap.get?_modify_cases hv' with ⟨rfl, v, hget, rfl⟩ | ⟨-, hget⟩
      · exact ⟨v, hget, .memberPrepared (get?_of_sessionOf hx hget) hp⟩
      · exact ⟨v', hget, .relayed (.refl _ _)⟩

/-- A move keeps every server. -/
theorem Move.serves {s s' : System} {b : Request} {reqs : List Request}
    (h : Move s b s' reqs) (serverId : ServerId) :
    (s'.servers.get? serverId).isSome = (s.servers.get? serverId).isSome := by
  have hmapped : ∀ {t : System} {f : ServerId → Server → Server},
      Mapped t s' f → (s'.servers.get? serverId).isSome
        = (t.servers.get? serverId).isSome := by
    intro t f hf
    rw [hf, Option.isSome_map]
  cases h with
  | quiet _ _ hv => exact hmapped (.of_eq hv)
  | asked _ _ _ _ hv => exact hmapped (.of_eq hv)
  | forwarded _ _ hv => exact hmapped (.of_eq hv)
  | unsubscribing _ hv => exact hmapped (.of_eq hv)
  | abandoned _ hv => exact hmapped (.of_eq hv)
  | updateNacked _ _ hv => exact hmapped (.of_eq hv)
  | announced _ _ _ hv => exact hmapped (.of_announce hv)
  | rejected _ _ hv => exact hmapped (.of_modify hv)
  | removed _ _ _ hv => exact hmapped (.of_modify hv)
  | subscribed _ _ _ _ hv => exact hmapped (.of_modify hv)
  | unsubscribed _ _ hv => exact hmapped (.of_modify hv)
  | added _ _ _ _ hv => exact hmapped (.of_modify hv)
  | @updated _ _ _ _ serverId' _ _ _ _ _ _ _ _ _ hv =>
      rw [hv, announce, JsMap.get?_mapVal, Option.isSome_map]
      split
      · rfl
      · rw [JsMap.get?_modify]
        by_cases heq : serverId = serverId'
        · rw [if_pos heq, Option.isSome_map, heq]
        · rw [if_neg heq]

/-- The server a move finds, and what it leaves of it. -/
theorem Move.callback_of {sync : Bool} {s s' : System} {b : Request}
    {reqs : List Request} (hready : Ready s sync b) (h : Move s b s' reqs)
    {serverId : ServerId} {v : Server}
    (hv : s.servers.get? serverId = some v) :
    ∃ v', s'.servers.get? serverId = some v' ∧
      Callback s.coordinator serverId v v' := by
  have hserves := h.serves serverId
  rw [hv] at hserves
  obtain ⟨v', hv'⟩ := Option.isSome_iff_exists.mp hserves
  obtain ⟨u, hu, hcall⟩ := h.callback hready hv'
  rw [hv] at hu
  cases hu
  exact ⟨v', hv', hcall⟩

/-- **The invariant rule for one server.** -/
theorem Point.server (I : Server → Prop) (initial : I .initial)
    (call : ∀ {tr : List (Out Publisher)} {s : System} {serverId : ServerId}
      {v : Server} {a : SystemAction} {p : Server × Option Request},
      Point G s [] → G tr s a → s.servers.get? serverId = some v → I v →
      ServerCall serverId v a p → I p.1)
    (callback : ∀ {s : System} {reqs : List Request} {serverId : ServerId}
      {v v' : Server}, Point G s reqs →
      s.servers.get? serverId = some v → I v →
      Callback s.coordinator serverId v v' → I v')
    {s : System} {reqs : List Request} (h : Point G s reqs) :
    ∀ serverId v, s.servers.get? serverId = some v → I v := by
  have hmove : ∀ {sync s b s' reqs reqs'}, Point G s reqs →
      Ready s sync b → Move s b s' reqs' →
      (∀ S v, s.servers.get? S = some v → I v) →
      ∀ S v, s'.servers.get? S = some v → I v := by
    intro sync s b s' reqs reqs' h hready hm ih S v' hv'
    obtain ⟨v, hv, hcall⟩ := hm.callback hready hv'
    exact callback h hv (ih S v hv) hcall
  induction h with
  | initial => exact fun _ _ hv => nomatch hv
  | flushed _ _ ih => exact ih
  | started _ _ ih => exact JsMap.forall_set ih initial
  | called h hg hv hc ih =>
      exact JsMap.forall_set ih (call h hg hv (ih _ _ hv) hc)
  | published h hready hm _ ih => exact hmove h hready hm ih
  | coordinated h _ hready hm _ ih => exact hmove h hready hm ih

end System

end Twolk.Signaling
