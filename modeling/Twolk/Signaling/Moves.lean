/-
  Twolk.Signaling.Moves
  ─────────────────────
  **ONE STRETCH OF THE SYSTEM, SAID ONCE.**

  A stretch of the coordinator calls callbacks of the signaling servers.
  `Move s b s' reqs` lists what can come out: how the coordinator changed
  (a `Turn`), and what the callbacks did to which server.  For that one has
  to know who waits at the coordinator: each waiting publisher is a session
  that stands in the `await` the answer is for, no session waits twice, and
  updates wait for a session's client only (`Linked`).

  Main results:
    * `stretch_move` — every stretch of a linked system is a move,
    * `Move.linked`  — and leaves it linked.
-/
import Twolk.Signaling.Callbacks
import Twolk.Signaling.Steps

namespace Twolk.Signaling

open Twolk.Lib Coordinator

/-! ## §1. Who waits at the coordinator. -/

/-- The session a waiting publisher resumes. -/
def waitingSession : Waiting Publisher → Option (ServerId × SessionId)
  | .subscribe _ _ (.prepareSpace serverId session _) =>
      some (serverId, session)
  | .addMember _ _ _ (.prepareMember serverId session ..) =>
      some (serverId, session)
  | _ => none

namespace System

/-- A session, by its server and its number. -/
def sessionOf (s : System) (serverId : ServerId) (session : SessionId) :
    Option Session :=
  (s.servers.get? serverId).bind fun v => v.sessions.get? session

section Servers

variable {s : System} {S S' : ServerId} {v : Server} {session : SessionId}

/-- A session of a server that is there. -/
theorem sessionOf_eq (hv : s.servers.get? S = some v) (session : SessionId) :
    s.sessionOf S session = v.sessions.get? session := by
  rw [sessionOf, hv]
  rfl

theorem sessionOf_set_self (s : System) (S : ServerId) (v : Server)
    (session : SessionId) :
    sessionOf { s with servers := s.servers.set S v } S session
      = v.sessions.get? session :=
  sessionOf_eq (JsMap.get?_set_self _ _ _) session

theorem sessionOf_set_of_ne (s : System) (v : Server)
    (session : SessionId) (hne : S ≠ S') :
    sessionOf { s with servers := s.servers.set S' v } S session
      = s.sessionOf S session := by
  rw [sessionOf, JsMap.get?_set_of_ne _ _ hne]
  rfl

/-- A server that starts leaves the others alone. -/
theorem servers_start (hn : s.servers.get? S' = none)
    (hv : s.servers.get? S = some v) :
    (s.servers.set S' .initial).get? S = some v := by
  rw [JsMap.get?_set_of_ne, hv]
  rintro rfl
  rw [hn] at hv
  cases hv

theorem sessionOf_start {x : Session} (hn : s.servers.get? S' = none)
    (hx : s.sessionOf S session = some x) :
    sessionOf { s with servers := s.servers.set S' .initial } S session
      = some x := by
  obtain ⟨v, hv, hx⟩ := Option.bind_eq_some_iff.mp hx
  exact Option.bind_eq_some_iff.mpr ⟨v, servers_start hn hv, hx⟩

end Servers

/-- The coordinator at the start of a stretch. -/
def base (s : System) : Coord Publisher := { s.coordinator with out := [] }

/-- The sessions that wait at the coordinator. -/
def waitingSessions (s : System) : List (ServerId × SessionId) :=
  s.coordinator.waiting.filterMap waitingSession

/-- The publisher stands in the `await` its answer settles. -/
inductive Awaits (s : System) : Waiting Publisher → Prop
  | subscribe {serverId : ServerId} {session : SessionId} {x : Session}
      (hx : s.sessionOf serverId session = some x)
      (hp : x.phase = .preparingSpace none) :
      Awaits s (.subscribe serverId x.auth.spaceUuid
        (.prepareSpace serverId session x.auth.spaceUuid))
  | unsubscribe (serverId : ServerId) (uuid : Uuid) :
      Awaits s (.unsubscribe (.deleteSpace serverId uuid))
  | addMember {serverId : ServerId} {session : SessionId} {x : Session}
      (hx : s.sessionOf serverId session = some x)
      (hp : x.phase = .preparingMember none) :
      Awaits s (.addMember x.auth.spaceUuid x.auth.memberData
        x.auth.joinState (.prepareMember serverId session x.auth.spaceUuid
          x.auth.memberData x.auth.joinState))

/-- Whoever waits is in its `await`, once; updates wait for clients. -/
structure Linked (s : System) : Prop where
  waiting : ∀ w ∈ s.coordinator.waiting, s.Awaits w
  distinct : s.waitingSessions.Nodup
  updates : ∀ n r, s.coordinator.updateRequests.get? n = some r →
    ∃ serverId session event cId, r.cb = .forward serverId session event cId
  fresh : ∀ serverId v session x, s.servers.get? serverId = some v →
    v.sessions.get? session = some x → session < v.sessionIdGen

/-- The next session of a server is not there yet. -/
theorem Linked.next_session {s : System} (h : Linked s) {S : ServerId}
    {v : Server} (hv : s.servers.get? S = some v) :
    v.sessions.get? v.sessionIdGen = none := by
  by_contra hne
  obtain ⟨x, hx⟩ := Option.ne_none_iff_exists'.mp hne
  exact absurd (h.fresh S v _ x hv hx) (Nat.lt_irrefl _)

/-- Request `b` may be run, while the server that publishes it is still in
`publish` when `sync`. -/
inductive Ready (s : System) : Bool → Request → Prop
  | subscribe {serverId : ServerId} {session : SessionId} {x : Session}
      (hx : s.sessionOf serverId session = some x)
      (hp : x.phase = .preparingSpace none)
      (hw : (serverId, session) ∉ s.waitingSessions) :
      Ready s true (.subscribeToSpaceRequest serverId x.auth.spaceUuid
        (.prepareSpace serverId session x.auth.spaceUuid))
  | addMember {serverId : ServerId} {session : SessionId} {x : Session}
      (hx : s.sessionOf serverId session = some x)
      (hp : x.phase = .preparingMember none)
      (hw : (serverId, session) ∉ s.waitingSessions) :
      Ready s true (.addMemberRequest serverId x.auth.spaceUuid
        x.auth.memberData x.auth.joinState
        (.prepareMember serverId session x.auth.spaceUuid
          x.auth.memberData x.auth.joinState))
  | removeMember {serverId : ServerId} {memberId : MemberId}
      (hm : ∀ v, s.servers.get? serverId = some v →
        v.memberIdToChannel.get? memberId = none) :
      Ready s true (.removeMemberRequest memberId
        (.deleteMember serverId memberId))
  | unsubscribe (serverId : ServerId) (uuid : Uuid) :
      Ready s true (.unsubscribeFromSpaceRequest serverId uuid
        (.deleteSpace serverId uuid))
  | forward (serverId : ServerId) (session : SessionId)
      (event : ForwardedEvent) (cId : String) (uuid : Uuid)
      (update : SpaceUpdateS) :
      Ready s true (.spaceUpdateStream uuid update
        (.forward serverId session event cId))
  | coordinator {a : Request} (ha : ofServer a = false) : Ready s false a

/-! ## §2. Moves. -/

/-- One observation, as a server hears it when it answers nobody. -/
def hears (v : Server) : Out Publisher → Server
  | .spaceUpdate uuid update => v.onSpaceUpdate uuid update
  | _ => v

/-- Every server hears the space updates. -/
def announce (servers : JsMap ServerId Server)
    (heard : List (Out Publisher)) : JsMap ServerId Server :=
  servers.mapVal fun _ v => heard.foldl hears v

/-- What comes out of a stretch. -/
inductive Move (s : System) : Request → System → List Request → Prop
  /-- No server changes, and who waits stays. -/
  | quiet {b : Request} {s' : System} {heard : List (Out Publisher)}
      (hq : b.callback ≠ none → s.base.refuses b ∨ s.base.ignores b)
      (h : Turn s.base s'.coordinator [] [] heard)
      (hv : s'.servers = s.servers) : Move s b s' []
  | announced {b : Request} {s' : System} {heard : List (Out Publisher)}
      (hb : b.callback = none) (ha : Announces heard)
      (h : Turn s.base s'.coordinator [] [] heard)
      (hv : s'.servers = announce s.servers heard) : Move s b s' []
  /-- A nack while the server is in `publish`. -/
  | rejected {b : Request} {s' : System} {heard : List (Out Publisher)}
      {serverId : ServerId} {session : SessionId} {error : String}
      (hw : (serverId, session) ∉ s.waitingSessions)
      (h : Turn s.base s'.coordinator [] [] heard)
      (hv : s'.servers = s.servers.modify serverId
        fun v => v.reject session error) : Move s b s' []
  | asked {b : Request} {s' : System} {w : Waiting Publisher} {uuid : Uuid}
      (hw : b.asks = some w) (hs : b.space = some uuid)
      (hk : s.coordinator.statusOf uuid ≠ none)
      (h : Turn s.base s'.coordinator [w] [] [])
      (hv : s'.servers = s.servers) : Move s b s' []
  | forwarded {b : Request} {s' : System} {n : Nat}
      {r : UpdateRequest Publisher} {serverId : ServerId}
      {session : SessionId} {event : ForwardedEvent} {cId : String}
      (hr : r.cb = .forward serverId session event cId)
      (h : Turn { s.base with
          updateIdGen := n + 1
          updateRequests := s.base.updateRequests.set n r }
        s'.coordinator [] [] [])
      (hv : s'.servers = s.servers) : Move s b s' []
  | unsubscribing {s' : System} {serverId : ServerId} {uuid : Uuid}
      (h : Turn (SpaceService.unsubscribe s.base serverId uuid)
        s'.coordinator [.unsubscribe (.deleteSpace serverId uuid)] [] [])
      (hv : s'.servers = s.servers) :
      Move s (.unsubscribeFromSpaceRequest serverId uuid
        (.deleteSpace serverId uuid)) s' []
  | removed {s' : System} {serverId : ServerId} {memberId : MemberId}
      {member : Coordinator.Member} {heard : List (Out Publisher)}
      (hm : memberId ∈ s.coordinator.members.keys)
      (hh : s.coordinator.memberHeap.get? memberId = some member)
      (h : Turn (MemberService.remove s.base memberId member)
        s'.coordinator [] [] heard)
      (hv : s'.servers = s.servers.modify serverId
        fun v => (v.onMemberDeleted serverId memberId).1) :
      Move s (.removeMemberRequest memberId
        (.deleteMember serverId memberId)) s'
        ((s.servers.get? serverId).bind fun v =>
          (v.onMemberDeleted serverId memberId).2).toList
  /-- The publisher is nacked after `publish`, or not answered at all: its
  promise stays unsettled. -/
  | abandoned {i : Nat} {s' : System} {w : Waiting Publisher}
      {heard : List (Out Publisher)}
      (h : Turn s.base s'.coordinator [] [w] heard)
      (hv : s'.servers = s.servers) : Move s (.resume i) s' []
  | subscribed {i : Nat} {s' : System} {serverId : ServerId}
      {session : SessionId} {x : Session} {space : Coordinator.Space}
      {rtpCapabilities : Json} {heard : List (Out Publisher)}
      (hx : s.sessionOf serverId session = some x)
      (hp : x.phase = .preparingSpace none)
      (hs : s.coordinator.spaces.get? x.auth.spaceUuid = some space)
      (h : Turn (SpaceService.subscribe s.base serverId x.auth.spaceUuid)
        s'.coordinator [] [.subscribe serverId x.auth.spaceUuid
          (.prepareSpace serverId session x.auth.spaceUuid)] heard)
      (hv : s'.servers = s.servers.modify serverId
        fun v => v.onSpacePrepared session x.auth.spaceUuid
          ⟨x.auth.spaceUuid, space.data,
            SpaceService.clientSideMembers s.coordinator space⟩
          rtpCapabilities) : Move s (.resume i) s' []
  | unsubscribed {i : Nat} {s' : System} {serverId : ServerId}
      {uuid : Uuid} {heard : List (Out Publisher)}
      (hi : s.coordinator.tasks[i]? = some
        (.transitioned (.unsubscribe (.deleteSpace serverId uuid)) (.ok ())))
      (h : Turn s.base s'.coordinator []
        [.unsubscribe (.deleteSpace serverId uuid)] heard)
      (hv : s'.servers = s.servers.modify serverId
        fun v => v.removeSpace uuid) : Move s (.resume i) s' []
  | added {i : Nat} {s' : System} {serverId : ServerId}
      {session : SessionId} {x : Session} {heard : List (Out Publisher)}
      (hx : s.sessionOf serverId session = some x)
      (hp : x.phase = .preparingMember none)
      (hk : s.coordinator.statusOf x.auth.spaceUuid ≠ none)
      (h : Turn (MemberService.add s.base x.auth.memberData
          x.auth.joinState x.auth.spaceUuid) s'.coordinator []
        [.addMember x.auth.spaceUuid x.auth.memberData x.auth.joinState
          (.prepareMember serverId session x.auth.spaceUuid
            x.auth.memberData x.auth.joinState)] heard)
      (hv : s'.servers = s.servers.modify serverId
        fun v => v.onMemberPrepared session x.auth.spaceUuid
          x.auth.memberData x.auth.joinState s.coordinator.memberIdGen) :
      Move s (.resume i) s' []
  | updated {b : Request} {s' : System} {n : Nat}
      {r : UpdateRequest Publisher} {serverId : ServerId}
      {session : SessionId} {event : ForwardedEvent} {cId : String}
      {resp : Response} {heard : List (Out Publisher)}
      (hr : s.coordinator.updateRequests.get? n = some r)
      (hcb : r.cb = .forward serverId session event cId)
      (ha : Announces heard)
      (h : Turn { s.base with
          updateRequests := s.base.updateRequests.delete n }
        s'.coordinator [] [] (.ack r.cb resp :: heard))
      (hv : s'.servers = announce
        (match event.ackEvent cId resp with
        | none => s.servers
        | some e => s.servers.modify serverId fun v => v.emit session e)
        heard) : Move s b s' []
  | updateNacked {b : Request} {s' : System} {n : Nat}
      {r : UpdateRequest Publisher} {heard : List (Out Publisher)}
      (hr : s.coordinator.updateRequests.get? n = some r)
      (h : Turn { s.base with
          updateRequests := s.base.updateRequests.delete n }
        s'.coordinator [] [] heard)
      (hv : s'.servers = s.servers) : Move s b s' []

/-! ## §3. Every stretch is a move. -/

/-- One message is delivered like a list of one. -/
theorem deliverAll_singleton (sync : Bool) (s : System)
    (o : Out Publisher) :
    deliverAll sync s [o]
      = ((s.deliver sync o).1, (s.deliver sync o).2.toList) := by
  unfold deliverAll
  rw [List.foldl_cons, List.foldl_nil, List.nil_append]

/-- Updates are announced to every server. By induction on them. -/
theorem deliverAll_announces (sync : Bool) {heard : List (Out Publisher)} :
    ∀ {s : System} {reqs : List Request}, Announces heard →
      heard.foldl (fun p o => ((p.1.deliver sync o).1,
          p.2 ++ (p.1.deliver sync o).2.toList)) (s, reqs)
        = ({ s with servers := announce s.servers heard }, reqs) := by
  induction heard with
  | nil =>
      intro s reqs _
      have hsame : announce s.servers [] = s.servers := by
        unfold announce JsMap.mapVal
        simp
      rw [List.foldl_nil, hsame]
  | cons o heard ih =>
      intro s reqs ha
      obtain ⟨uuid, update, rfl⟩ := ha o List.mem_cons_self
      rw [List.foldl_cons]
      refine (ih fun o ho => ha o (List.mem_cons_of_mem _ ho)).trans ?_
      simp only [deliver, Option.toList_none, List.append_nil,
        Prod.mk.injEq, and_true]
      unfold announce JsMap.mapVal
      simp [List.map_map, Function.comp_def, hears]

/-- A request of nobody's session comes from outside. -/
theorem external_of_ofServer {a : Request} {cb : Publisher}
    (ha : ofServer a = false) (hcb : a.callback = some cb) :
    cb = .external := by
  cases a <;> simp_all [ofServer, Action.callback]

/-- A nack outside `publish` changes no server. -/
theorem onNack_late (s : System) (message : String) (p : Publisher) :
    s.onNack false message p = s := by
  unfold onNack
  split <;> rfl

/-- A refused request of a session rejects its promise; the others only
reach a log. -/
theorem refused_move {sync : Bool} {s s₁ : System} {b : Request}
    {cb : Publisher} {message : String} (hready : Ready s sync b)
    (hcb : b.callback = some cb) (hr : s.base.refuses b)
    (h : Turn s.base s₁.coordinator [] [] [.nack cb message])
    (hv : s₁.servers = s.servers) :
    Move s b (s₁.onNack sync message cb) [] := by
  have hrejected : ∀ serverId session error,
      (serverId, session) ∉ s.waitingSessions → Move s b
        (s₁.modifyServer serverId fun v => v.reject session error) [] := by
    intro serverId session error hw
    have hreject : (s₁.modifyServer serverId fun v =>
        v.reject session error).servers
          = s.servers.modify serverId fun v => v.reject session error := by
      rw [← hv]
      rfl
    exact .rejected hw h hreject
  have hquiet : Move s b s₁ [] := .quiet (fun _ => .inl hr) h hv
  cases hready with
  | subscribe _ _ hw =>
      cases hcb
      exact hrejected _ _ _ hw
  | addMember _ _ hw =>
      cases hcb
      exact hrejected _ _ _ hw
  | removeMember | unsubscribe | forward =>
      cases hcb
      exact hquiet
  | coordinator ha =>
      cases external_of_ofServer ha hcb
      exact hquiet

/-- The coordinator acks a forwarded message. -/
theorem deliver_forwardAck (sync : Bool) (s : System)
    (serverId : ServerId) (session : SessionId) (event : ForwardedEvent)
    (cId : String) (resp : Response) :
    s.deliver sync (.ack (.forward serverId session event cId) resp)
      = ({ s with servers := match event.ackEvent cId resp with
          | none => s.servers
          | some e => s.servers.modify serverId fun v =>
              v.emit session e }, none) := by
  unfold deliver onAck
  dsimp only
  cases event.ackEvent cId resp <;> rfl

theorem Ready.late {sync : Bool} {s : System} {b : Request}
    (h : Ready s sync b) (hb : b.callback = none) : sync = false := by
  cases h <;> first | rfl | cases hb

/-- **Every stretch of a linked system is a move.** -/
theorem stretch_move {sync : Bool} {s s' : System} {b : Request}
    {reqs : List Request} (hL : Linked s)
    (hr : (Coordinator.machine Publisher).Reachable s.coordinator)
    (hready : Ready s sync b) (h : s.stretch sync b = some (s', reqs)) :
    Move s b s' reqs := by
  obtain ⟨c', hc, heq⟩ := Option.map_eq_some_iff.mp h
  have hwf := coordWF_reachable hr
  have hs : Stretch s.base b c' := act_stretch { hwf.router with }
    { hwf.member with } { hwf.transport with } hc
  -- what is heard is what the stretch says
  have hheard : ∀ {d : Coord Publisher} {asked answered heard},
      Turn d c' asked answered heard → d.out.filter Out.heard = [] →
      deliverAll sync { s with coordinator := c', out := s.out ++ c'.out }
        heard = (s', reqs) := by
    intro d asked answered heard ht hout
    rw [← heq, ht.heard, hout]
    rfl
  have hquiet : ∀ {heard}, Turn s.base c' [] [] heard →
      (b.callback ≠ none → s.base.refuses b ∨ s.base.ignores b) →
      (({ s with coordinator := c', out := s.out ++ c'.out } : System), [])
        = (s', reqs) → Move s b s' reqs := by
    intro heard ht hq hd
    cases hd
    exact .quiet hq ht rfl
  cases hs with
  | @silent _ _ heard hcb ha ht =>
      have hd := hheard ht rfl
      unfold deliverAll at hd
      rw [deliverAll_announces sync ha] at hd
      cases hd
      exact .announced hcb ha ht rfl
  | @served _ _ cb resp hcb hq ht =>
      have hd := hheard ht rfl
      rw [deliverAll_singleton] at hd
      refine hquiet ht (fun _ => ?_) ?_
      · cases b <;> simp_all [Action.isQuery, Coord.refuses]
      · cases hready with
        | coordinator ha =>
            cases external_of_ofServer ha hcb
            exact hd
        | _ => cases hq
  | servedTwice hthrow => exact absurd rfl hthrow
  | refused hcb hrefuse ht =>
      have hd := hheard ht rfl
      rw [deliverAll_singleton] at hd
      cases hd
      exact refused_move hready hcb hrefuse ht rfl
  | ignored hcb hi ht => exact hquiet ht (fun _ => .inr hi) (hheard ht rfl)
  | asked hw hsp hk ht =>
      cases hheard ht rfl
      exact .asked hw hsp hk ht rfl
  | forwarded htarget hT hst hu hp ht =>
      cases hheard ht rfl
      cases hready with
      | forward => exact .forwarded rfl ht rfl
      | coordinator ha => cases ha
  | unsubscribing hk ht =>
      cases hheard ht rfl
      cases hready with
      | unsubscribe => exact .unsubscribing ht rfl
      | coordinator ha => cases ha
  | removed hm hh ht =>
      have hd := hheard ht rfl
      rw [deliverAll_singleton] at hd
      cases hd
      cases hready with
      | removeMember => exact .removed hm hh ht rfl
      | coordinator ha => cases ha
  | nacked ht =>
      have hd := hheard ht rfl
      rw [deliverAll_singleton, hready.late rfl] at hd
      simp only [deliver, onNack_late, Option.toList_none] at hd
      cases hd
      exact .abandoned ht rfl
  | dropped hs ht =>
      cases hheard ht rfl
      exact .abandoned ht rfl
  | @subscribed i serverId uuid cb space caps _ hs ht =>
      have hd := hheard ht rfl
      rw [deliverAll_singleton] at hd
      have hmem : Waiting.subscribe serverId uuid cb
          ∈ s.coordinator.waiting := ht.waiting.subset List.mem_cons_self
      cases hL.waiting _ hmem with
      | subscribe hx hp =>
          cases hd
          exact .subscribed hx hp hs ht rfl
  | @unsubscribed i cb _ hi ht =>
      have hd := hheard ht rfl
      rw [deliverAll_singleton] at hd
      have hmem : Waiting.unsubscribe cb ∈ s.coordinator.waiting :=
        ht.waiting.subset List.mem_cons_self
      cases hL.waiting _ hmem with
      | unsubscribe serverId uuid =>
          cases hd
          exact .unsubscribed hi ht rfl
  | @added i uuid data state cb _ hk ht =>
      have hd := hheard ht rfl
      rw [deliverAll_singleton] at hd
      have hmem : Waiting.addMember uuid data state cb
          ∈ s.coordinator.waiting := ht.waiting.subset List.mem_cons_self
      cases hL.waiting _ hmem with
      | addMember hx hp =>
          cases hd
          exact .added hx hp hk ht rfl
  | caught _ ht =>
      have hd := hheard ht rfl
      rw [deliverAll_singleton, hready.late rfl] at hd
      simp only [deliver, onNack_late, Option.toList_none] at hd
      cases hd
      exact .quiet (fun h => absurd rfl h) ht rfl
  | @updated id _ r _ hr h =>
      obtain ⟨serverId, session, event, cId, hcb⟩ := hL.updates id r hr
      rcases h with ⟨resp, heard, ha, ht⟩ | ⟨hthrow, -⟩
      · have hd := hheard ht rfl
        unfold deliverAll at hd
        rw [List.foldl_cons, hcb, deliver_forwardAck,
          deliverAll_announces sync ha] at hd
        cases hd
        exact .updated hr hcb ha ht rfl
      · exact absurd rfl hthrow
  | @updateNacked id _ r _ _ hr ht =>
      have hd := hheard ht rfl
      rw [deliverAll_singleton, hready.late rfl] at hd
      simp only [deliver, onNack_late, Option.toList_none] at hd
      cases hd
      exact .updateNacked hr ht rfl

/-! ## §4. Moves keep the links. -/

/-- Server by server, `s'` is `s` changed by `f`. -/
def Mapped (s s' : System) (f : ServerId → Server → Server) : Prop :=
  ∀ serverId, s'.servers.get? serverId
    = (s.servers.get? serverId).map (f serverId)

theorem Mapped.of_eq {s s' : System} (h : s'.servers = s.servers) :
    Mapped s s' fun _ v => v := fun serverId => by
  rw [h]
  exact Option.map_id'.symm

/-- A change of one server maps the others to themselves. -/
theorem Mapped.of_modify {s s' : System} {serverId : ServerId}
    {f : Server → Server} (h : s'.servers = s.servers.modify serverId f) :
    Mapped s s' fun serverId' v => if serverId' = serverId then f v else v := by
  intro serverId'
  rw [h, JsMap.get?_modify]
  by_cases heq : serverId' = serverId
  · simp [heq]
  · simp [heq]

theorem Mapped.of_announce {s s' : System} {heard : List (Out Publisher)}
    (h : s'.servers = announce s.servers heard) :
    Mapped s s' fun _ v => heard.foldl hears v := fun serverId => by
  rw [h, announce, JsMap.get?_mapVal]

/-- One change after the other maps by both. -/
theorem Mapped.trans {s s' s'' : System} {f g : ServerId → Server → Server}
    (h : Mapped s s' f) (h' : Mapped s' s'' g) :
    Mapped s s'' fun serverId v => g serverId (f serverId v) := by
  intro serverId
  rw [h', h, Option.map_map]
  rfl

/-- A publisher still stands in its `await` when its session has not
moved. -/
theorem Awaits.keep {s s' : System} {f : ServerId → Server → Server}
    {w : Waiting Publisher} (h : s.Awaits w) (hf : Mapped s s' f)
    (hs : ∀ serverId session v, waitingSession w = some (serverId, session) →
      s.servers.get? serverId = some v →
      ((f serverId v).sessions.get? session).map (fun x => (x.auth, x.phase))
        = (v.sessions.get? session).map fun x => (x.auth, x.phase)) :
    s'.Awaits w := by
  have hfind : ∀ {serverId session x},
      waitingSession w = some (serverId, session) →
      s.sessionOf serverId session = some x → ∃ x',
        s'.sessionOf serverId session = some x' ∧ x'.auth = x.auth ∧
          x'.phase = x.phase := by
    intro serverId session x hw hx
    obtain ⟨v, hv, hx⟩ := Option.bind_eq_some_iff.mp hx
    have heq := hs serverId session v hw hv
    rw [hx] at heq
    obtain ⟨x', hx', heq⟩ := Option.map_eq_some_iff.mp heq
    obtain ⟨hauth, hphase⟩ := Prod.mk.inj heq
    refine ⟨x', ?_, hauth, hphase⟩
    rw [sessionOf, hf, hv]
    exact hx'
  cases h with
  | subscribe hx hp =>
      obtain ⟨x', hx', hauth, hphase⟩ := hfind rfl hx
      rw [← hauth]
      exact .subscribe hx' (hphase.trans hp)
  | unsubscribe => exact .unsubscribe _ _
  | addMember hx hp =>
      obtain ⟨x', hx', hauth, hphase⟩ := hfind rfl hx
      rw [← hauth]
      exact .addMember hx' (hphase.trans hp)

/-- A change after which the waiting sessions stand where they stood. -/
theorem Linked.keep {s s' : System} {f : ServerId → Server → Server}
    {p : ServerId → SessionId → Prop} (hL : Linked s)
    (hf : Mapped s s' f)
    (hframe : ∀ serverId v, s.servers.get? serverId = some v →
      Server.SessionFrame (p serverId) v (f serverId v))
    (hwait : ∀ w ∈ s'.coordinator.waiting,
      w ∈ s.coordinator.waiting ∨ s'.Awaits w)
    (hdistinct : s'.waitingSessions.Nodup)
    (hstay : ∀ serverId session,
      (serverId, session) ∈ s'.waitingSessions → ¬ p serverId session)
    (hupdates : ∀ n r, s'.coordinator.updateRequests.get? n = some r →
      s.coordinator.updateRequests.get? n = some r ∨
        ∃ serverId session event cId,
          r.cb = .forward serverId session event cId) : Linked s' where
  waiting w hw := by
    rcases hwait w hw with hold | hnew
    · refine (hL.waiting w hold).keep hf fun serverId session v hws hv => ?_
      refine (hframe serverId v hv).standing session ?_
      exact hstay serverId session (List.mem_filterMap.mpr ⟨w, hw, hws⟩)
    · exact hnew
  distinct := hdistinct
  updates n r hr :=
    (hupdates n r hr).elim (hL.updates n r) id
  fresh serverId v' session x' hv' hx' := by
    rw [hf] at hv'
    obtain ⟨v, hv, rfl⟩ := Option.map_eq_some_iff.mp hv'
    have hfr := hframe serverId v hv
    have hauth := hfr.auth session
    rw [hx'] at hauth
    obtain ⟨x, hx, -⟩ := Option.map_eq_some_iff.mp hauth.symm
    rw [hfr.sessionIdGen]
    exact hL.fresh serverId v session x hv hx

/-- Where the sessions of a move's publishers are. -/
theorem waitingSessions_of_perm {s s' : System} {asked answered :
    List (Waiting Publisher)}
    (h : (answered ++ s'.coordinator.waiting).Perm
      (asked ++ s.coordinator.waiting)) :
    (answered.filterMap waitingSession ++ s'.waitingSessions).Perm
      (asked.filterMap waitingSession ++ s.waitingSessions) := by
  have hp := h.filterMap waitingSession
  rwa [List.filterMap_append, List.filterMap_append] at hp

/-- Who waits afterwards is who waited, and who asked, less who was
answered; nobody else has moved. -/
theorem Linked.of_perm {s s' : System} {f : ServerId → Server → Server}
    {p : ServerId → SessionId → Prop} (hL : Linked s)
    (asked answered : List (Waiting Publisher)) (hf : Mapped s s' f)
    (hframe : ∀ serverId v, s.servers.get? serverId = some v →
      Server.SessionFrame (p serverId) v (f serverId v))
    (hperm : (answered ++ s'.coordinator.waiting).Perm
      (asked ++ s.coordinator.waiting))
    (hasked : ∀ w ∈ asked, s'.Awaits w)
    (hdistinct : (asked.filterMap waitingSession
      ++ s.waitingSessions).Nodup)
    (hstay : ∀ serverId session, p serverId session →
      (serverId, session) ∈ answered.filterMap waitingSession ∨
        (serverId, session) ∉ asked.filterMap waitingSession
          ++ s.waitingSessions)
    (hupdates : ∀ n r, s'.coordinator.updateRequests.get? n = some r →
      s.coordinator.updateRequests.get? n = some r ∨
        ∃ serverId session event cId,
          r.cb = .forward serverId session event cId) : Linked s' := by
  have hsessions := waitingSessions_of_perm hperm
  have hnodup := hsessions.symm.nodup hdistinct
  rw [List.nodup_append] at hnodup
  obtain ⟨-, hn, hdisjoint⟩ := hnodup
  refine hL.keep hf hframe (fun w hw => ?_) hn
    (fun serverId session hmem hp => ?_) hupdates
  · rcases List.mem_append.mp
      (hperm.subset (List.mem_append_right _ hw)) with h | h
    · exact .inr (hasked w h)
    · exact .inl h
  · rcases hstay serverId session hp with h | h
    · exact hdisjoint _ h _ hmem rfl
    · exact h (hsessions.subset (List.mem_append_right _ hmem))

/-- A move in which nobody asks and nobody is answered. -/
theorem Linked.still {s s' : System} {f : ServerId → Server → Server}
    (hL : Linked s) (hf : Mapped s s' f)
    (hframe : ∀ serverId v, s.servers.get? serverId = some v →
      Server.SessionFrame (fun _ => False) v (f serverId v))
    (hperm : s'.coordinator.waiting.Perm s.coordinator.waiting)
    (hupdates : ∀ n r, s'.coordinator.updateRequests.get? n = some r →
      s.coordinator.updateRequests.get? n = some r ∨
        ∃ serverId session event cId,
          r.cb = .forward serverId session event cId) : Linked s' :=
  hL.of_perm [] [] hf hframe hperm (by simp)
    hL.distinct (fun _ _ h => h.elim) hupdates

/-- What a server hears moves no session on. -/
theorem hears_frame {p : SessionId → Prop} (heard : List (Out Publisher)) :
    ∀ v, Server.SessionFrame p v (heard.foldl hears v) := by
  induction heard with
  | nil => exact .refl p
  | cons o heard ih =>
    intro v
    refine Server.SessionFrame.trans ?_ (ih (hears v o))
    cases o with
    | spaceUpdate uuid update => exact Server.onSpaceUpdate_frame p v _ _
    | _ => exact .refl p v

theorem modify_frame {p : ServerId → SessionId → Prop}
    {serverId : ServerId} {f : Server → Server}
    (h : ∀ v, Server.SessionFrame (p serverId) v (f v))
    (serverId' : ServerId) (v : Server) :
    Server.SessionFrame (p serverId') v
      (if serverId' = serverId then f v else v) := by
  split
  · rename_i heq
    rw [heq]
    exact h v
  · exact .refl _ v

/-- One session is called back, and does not wait any more. -/
theorem Linked.calledBack {s s' : System} {serverId : ServerId}
    {session : SessionId} {f : Server → Server} (hL : Linked s)
    (answered : List (Waiting Publisher))
    (hv : s'.servers = s.servers.modify serverId f)
    (hframe : ∀ v, Server.SessionFrame (· = session) v (f v))
    (hperm : (answered ++ s'.coordinator.waiting).Perm
      s.coordinator.waiting)
    (hstay : (serverId, session) ∈ answered.filterMap waitingSession ∨
      (serverId, session) ∉ s.waitingSessions)
    (hupdates : ∀ n r, s'.coordinator.updateRequests.get? n = some r →
      s.coordinator.updateRequests.get? n = some r) : Linked s' := by
  refine hL.of_perm [] answered
    (p := fun S x => S = serverId ∧ x = session) (.of_modify hv)
    (fun S v _ => ?_) hperm (by simp) hL.distinct (fun S x hp => ?_)
    fun n r hr => .inl (hupdates n r hr)
  · exact modify_frame (p := fun S x => S = serverId ∧ x = session)
      (fun v => (hframe v).mono fun x hx => ⟨rfl, hx⟩) S v
  · obtain ⟨rfl, rfl⟩ := hp
    exact hstay

/-- **Moves keep the links.** -/
theorem Move.linked {sync : Bool} {s s' : System} {b : Request}
    {reqs : List Request} (hL : Linked s) (hready : Ready s sync b)
    (h : Move s b s' reqs) : Linked s' := by
  -- most moves leave the sessions alone
  have hstill : ∀ {q : SessionId → Prop} (S : ServerId) (v : Server),
      s.servers.get? S = some v → Server.SessionFrame q v v :=
    fun _ v _ => .refl _ v
  -- an update that is answered is not waited for any more
  have hdelete : ∀ n, s'.coordinator.updateRequests
      = s.coordinator.updateRequests.delete n → ∀ m r,
      s'.coordinator.updateRequests.get? m = some r →
      s.coordinator.updateRequests.get? m = some r ∨
        ∃ serverId session event cId,
          r.cb = .forward serverId session event cId := by
    intro n heq m r hr
    rw [heq] at hr
    exact .inl (JsMap.get?_of_get?_delete hr)
  cases h with
  | quiet hq h hv =>
      exact hL.still (.of_eq hv) hstill h.waiting
        fun n r hr => .inl (h.updates ▸ hr)
  | announced hb ha h hv =>
      exact hL.still (.of_announce hv) (fun _ v _ => hears_frame _ v)
        h.waiting fun n r hr => .inl (h.updates ▸ hr)
  | @rejected _ _ heard serverId session error hw h hv =>
      exact hL.calledBack [] hv
        (fun v => Server.reject_frame v session error) h.waiting (.inr hw)
        fun n r hr => h.updates ▸ hr
  -- the request makes its session a waiting one, which it was not before
  | @asked _ _ w uuid hw hs hk h hv =>
      have hawaits : ∀ {w}, s.Awaits w → s'.Awaits w := fun ha =>
        ha.keep (.of_eq hv) fun _ _ _ _ _ => rfl
      have hnew : s.Awaits w ∧ ([w].filterMap waitingSession
          ++ s.waitingSessions).Nodup := by
        cases hready with
        | subscribe hx hp hn =>
            cases hw
            exact ⟨.subscribe hx hp, List.nodup_cons.mpr ⟨hn, hL.distinct⟩⟩
        | addMember hx hp hn =>
            cases hw
            exact ⟨.addMember hx hp, List.nodup_cons.mpr ⟨hn, hL.distinct⟩⟩
        | coordinator ha =>
            cases b <;> first | cases (show none = some w from hw) | cases ha
        | _ => cases hw
      refine hL.of_perm _ [] (p := fun _ _ => False) (.of_eq hv) hstill
        h.waiting (fun w' hw' => ?_) hnew.2 (fun _ _ h => h.elim)
        fun n r hr => .inl (h.updates ▸ hr)
      rw [List.mem_singleton.mp hw']
      exact hawaits hnew.1
  -- the update that is forwarded is a client's
  | @forwarded _ _ n r serverId session event cId hr h hv =>
      refine hL.still (.of_eq hv) hstill h.waiting fun m r' hr' => ?_
      rw [h.updates] at hr'
      have hr' : (s.coordinator.updateRequests.set n r).get? m
        = some r' := hr'
      rw [JsMap.get?_set] at hr'
      split at hr'
      · cases hr'
        exact .inr ⟨_, _, _, _, hr⟩
      · exact .inl hr'
  -- an unsubscribe is waited for by no session
  | @unsubscribing _ serverId uuid h hv =>
      refine hL.of_perm _ [] (p := fun _ _ => False) (.of_eq hv) hstill
        h.waiting (fun w hw => ?_) hL.distinct (fun _ _ h => h.elim)
        fun n r hr => .inl (h.updates ▸ hr)
      rw [List.mem_singleton.mp hw]
      exact .unsubscribe serverId uuid
  | removed hm hh h hv =>
      exact hL.still (.of_modify hv)
        (fun S v _ => modify_frame (p := fun _ _ => False)
          (fun v => Server.onMemberDeleted_frame _ v _ _) S v)
        h.waiting fun n r hr => .inl (h.updates ▸ hr)
  | abandoned h hv =>
      exact hL.of_perm [] _ (p := fun _ _ => False) (.of_eq hv)
        hstill h.waiting (by simp) hL.distinct (fun _ _ h => h.elim)
        fun n r hr => .inl (h.updates ▸ hr)
  -- the session that waited gets its answer, and waits no more
  | @subscribed _ _ serverId session x _ _ _ hx hp hs h hv =>
      exact hL.calledBack _ hv
        (fun v => Server.onSpacePrepared_frame v session _ _ _) h.waiting
        (.inl (by simp [waitingSession])) fun n r hr => h.updates ▸ hr
  | @unsubscribed _ _ serverId uuid _ _ h hv =>
      exact hL.of_perm [] _ (p := fun _ _ => False)
        (.of_modify hv)
        (fun S v _ => modify_frame (p := fun _ _ => False)
          (f := fun v => v.removeSpace uuid) (fun v => .of_eq rfl rfl) S v)
        h.waiting (by simp) hL.distinct (fun _ _ h => h.elim)
        fun n r hr => .inl (h.updates ▸ hr)
  | @added _ _ serverId session x _ hx hp hk h hv =>
      exact hL.calledBack _ hv
        (fun v => Server.onMemberPrepared_frame v session _ _ _ _) h.waiting
        (.inl (by simp [waitingSession])) fun n r hr => h.updates ▸ hr
  -- the ack goes to one session before the broadcast
  | @updated _ _ n r serverId session event cId resp heard hr hcb ha h hv =>
      have hack : Mapped s
          { s with servers := match event.ackEvent cId resp with
            | none => s.servers
            | some e => s.servers.modify serverId fun v => v.emit session e }
          fun S v => match event.ackEvent cId resp with
            | none => v
            | some e => if S = serverId then v.emit session e else v := by
        cases event.ackEvent cId resp with
        | none => exact .of_eq rfl
        | some e => exact .of_modify rfl
      refine hL.still (hack.trans (.of_announce hv)) (fun S v _ => ?_)
        h.waiting (hdelete n h.updates)
      refine Server.SessionFrame.trans ?_ (hears_frame heard _)
      cases event.ackEvent cId resp with
      | none => exact .refl _ v
      | some e =>
          exact modify_frame (p := fun _ _ => False)
            (fun v => Server.emit_frame _ v session e) S v
  | updateNacked hr h hv =>
      exact hL.still (.of_eq hv) hstill h.waiting (hdelete _ h.updates)

/-! ## §5. Server functions keep the links. -/

/-- A session that waits stands in an `await`. -/
theorem Linked.waits {s : System} (hL : Linked s) {serverId : ServerId}
    {session : SessionId} (h : (serverId, session) ∈ s.waitingSessions) :
    ∃ x, s.sessionOf serverId session = some x ∧
      (x.phase = .preparingSpace none ∨ x.phase = .preparingMember none) := by
  obtain ⟨w, hw, hws⟩ := List.mem_filterMap.mp h
  cases hL.waiting w hw with
  | subscribe hx hp =>
      cases hws
      exact ⟨_, hx, .inl hp⟩
  | unsubscribe => cases hws
  | addMember hx hp =>
      cases hws
      exact ⟨_, hx, .inr hp⟩

/-- Whoever has been answered waits no more. -/
theorem Linked.not_waiting {s : System} (hL : Linked s) {serverId : ServerId}
    {session : SessionId} {v : Server} {x : Session}
    (hv : s.servers.get? serverId = some v)
    (hx : v.sessions.get? session = some x)
    (hspace : x.phase ≠ .preparingSpace none)
    (hmember : x.phase ≠ .preparingMember none) :
    (serverId, session) ∉ s.waitingSessions := by
  intro hmem
  obtain ⟨x', hx', hphase⟩ := hL.waits hmem
  rw [sessionOf_eq hv, hx] at hx'
  cases hx'
  exact hphase.elim hspace hmember

theorem Mapped.of_set {s s' : System} {serverId : ServerId}
    {v v' : Server} (hv : s.servers.get? serverId = some v)
    (h : s'.servers = s.servers.set serverId v') :
    Mapped s s' fun serverId' v => if serverId' = serverId then v' else v := by
  intro serverId'
  rw [h, JsMap.get?_set]
  by_cases heq : serverId' = serverId
  · simp [heq, hv]
  · simp [heq]

/-- A new server keeps the links: it has no session. -/
theorem Linked.started {s : System} (hL : Linked s) {serverId : ServerId}
    (hn : s.servers.get? serverId = none) : Linked
      { s with servers := s.servers.set serverId .initial } := by
  refine ⟨fun w hw => ?_, hL.distinct, hL.updates,
    fun S v session x hv hx => ?_⟩
  · cases hL.waiting w hw with
    | subscribe hx hp => exact .subscribe (sessionOf_start hn hx) hp
    | unsubscribe => exact .unsubscribe _ _
    | addMember hx hp => exact .addMember (sessionOf_start hn hx) hp
  · have hv : (s.servers.set serverId .initial).get? S = some v := hv
    rw [JsMap.get?_set] at hv
    split at hv
    · cases hv
      cases hx
    · exact hL.fresh S v session x hv hx

/-- Server functions other than `start` keep the sessions; only the one
that resumes moves, and it does not wait. -/
theorem call_frame {serverId : ServerId} {v : Server} {a : SystemAction}
    {p : Server × Option Request} (h : ServerCall serverId v a p)
    (ha : ∀ auth, a ≠ .connect serverId auth) :
    Server.SessionFrame (fun session => ∃ x,
      v.sessions.get? session = some x ∧ x.phase ≠ .preparingSpace none ∧
        x.phase ≠ .preparingMember none) v p.1 := by
  cases h with
  | connect auth => exact absurd rfl (ha auth)
  | @resume session x _ hx hp =>
      refine (Server.resume_frame hx hp).mono ?_
      rintro session rfl
      refine ⟨x, hx, fun h => ?_, fun h => ?_⟩
      · rw [Server.resume, h] at hp
        cases hp
      · rw [Server.resume, h] at hp
        cases hp
  | close hx ho => exact Server.close_frame _ _ hx
  | updateMemberState => exact Server.updateMemberState_frame _ v _ _ _ _
  | forward => exact .refl _ v

/-- A new session does not wait yet. -/
theorem Linked.connected {s : System} (hL : Linked s)
    {serverId : ServerId} {v : Server} (auth : Auth)
    (hv : s.servers.get? serverId = some v) :
    Linked { s with
      servers := s.servers.set serverId (v.start serverId auth).1 } := by
  obtain ⟨result, sessions, heq, hget, -⟩ := v.start_eq serverId auth
  -- the sessions from before are found as they were
  have hold : ∀ S session x, s.sessionOf S session = some x →
      sessionOf { s with
        servers := s.servers.set serverId (v.start serverId auth).1 } S
        session = some x := by
    intro S session x hx
    obtain ⟨v', hv', hx⟩ := Option.bind_eq_some_iff.mp hx
    show ((s.servers.set serverId _).get? S).bind _ = _
    rw [JsMap.get?_set]
    split
    · rename_i h
      rw [h, hv] at hv'
      cases hv'
      rw [Option.bind_some, heq]
      show sessions.get? session = _
      rw [hget, if_neg, hx]
      exact Nat.ne_of_lt (hL.fresh serverId v session x hv hx)
    · rw [hv']
      exact hx
  -- those that wait do; the new one is not waited for
  refine ⟨fun w hw => ?_, hL.distinct, hL.updates,
    fun S v' session x hv' hx => ?_⟩
  · cases hL.waiting w hw with
    | subscribe hx hp => exact .subscribe (hold _ _ _ hx) hp
    | unsubscribe => exact .unsubscribe _ _
    | addMember hx hp => exact .addMember (hold _ _ _ hx) hp
  -- the number of the new session is taken now
  · have hv' : (s.servers.set serverId (v.start serverId auth).1).get? S
      = some v' := hv'
    rw [JsMap.get?_set] at hv'
    split at hv'
    · cases hv'
      rw [heq] at hx ⊢
      have hx : sessions.get? session = some x := hx
      rw [hget] at hx
      show session < v.sessionIdGen + 1
      split at hx
      · rename_i h
        rw [h]
        exact Nat.lt_succ_self _
      · exact Nat.lt_succ_of_lt (hL.fresh serverId v session x hv hx)
    · exact hL.fresh S v' session x hv' hx

/-- **Server functions keep the links.** -/
theorem Linked.called {s : System} (hL : Linked s) {serverId : ServerId}
    {v : Server} {a : SystemAction} {p : Server × Option Request}
    (hv : s.servers.get? serverId = some v)
    (h : ServerCall serverId v a p) :
    Linked { s with servers := s.servers.set serverId p.1 } := by
  by_cases ha : ∃ auth, a = .connect serverId auth
  · obtain ⟨auth, rfl⟩ := ha
    cases h
    exact hL.connected auth hv
  · have hframe := call_frame h fun auth heq => ha ⟨auth, heq⟩
    refine hL.of_perm [] []
      (p := fun S session => S = serverId ∧ ∃ x,
        v.sessions.get? session = some x ∧ x.phase ≠ .preparingSpace none ∧
          x.phase ≠ .preparingMember none)
      (.of_set hv rfl) (fun S v' hv' => ?_) (.refl _) (by simp) hL.distinct
      (fun S session hp => .inr fun hmem => ?_) fun n r hr => .inl hr
    · split
      · rename_i heq
        subst heq
        cases hv.symm.trans hv'
        exact hframe.mono fun session hx => ⟨rfl, hx⟩
      · exact .refl _ v'
    · obtain ⟨rfl, x, hx, hspace, hmember⟩ := hp
      exact hL.not_waiting hv hx hspace hmember hmem

/-- **What a server function publishes is ready to run.** -/
theorem ready_of_call {s : System} (hL : Linked s) {serverId : ServerId}
    {v v' : Server} {a : SystemAction} {b : Request}
    (hv : s.servers.get? serverId = some v)
    (h : ServerCall serverId v a (v', some b)) :
    Ready { s with servers := s.servers.set serverId v' } true b := by
  have hsession : ∀ {session x}, v'.sessions.get? session = some x →
      sessionOf { s with servers := s.servers.set serverId v' } serverId
        session = some x := by
    intro session x hx
    rw [sessionOf_set_self, hx]
  generalize hp : (v', some b) = p at h
  cases h with
  | connect auth =>
      obtain ⟨result, sessions, heq, hget, -, hb⟩ :=
        v.start_eq serverId auth
      rw [← hp] at heq hb
      obtain ⟨rfl, rfl⟩ := hb b rfl
      have hnew := hget v.sessionIdGen
      rw [if_pos rfl] at hnew
      have hsessions : v'.sessions = sessions := congrArg Server.sessions heq
      rw [← hsessions] at hnew
      have hw : (serverId, v.sessionIdGen) ∉ s.waitingSessions := by
        intro hmem
        obtain ⟨x, hx, -⟩ := hL.waits hmem
        rw [sessionOf_eq hv, hL.next_session hv] at hx
        cases hx
      have hready := Ready.subscribe (hsession hnew) rfl hw
      exact hready
  | @resume session x _ hx hres =>
      subst hp
      cases Server.resumes_of_resume hx hres with
      | spacePrepared hphase hs h =>
          -- the session was answered before it resumed
          have hw : (serverId, session) ∉ s.waitingSessions :=
            hL.not_waiting hv hx (by simp [hphase]) (by simp [hphase])
          have hready := Ready.addMember (hsession h.self) rfl hw
          exact hready
  | @close session x hx ho =>
      cases hm : x.memberId with
      | none =>
          obtain ⟨-, hb⟩ := Server.close_eq_none serverId hx hm
          rw [← hp] at hb
          cases hb
      | some memberId =>
          obtain ⟨hputs, hb⟩ := Server.close_eq_some serverId hx hm
          rw [← hp] at hputs hb
          unfold Server.deleteMember at hb
          split at hb
          · cases hb
            refine .removeMember fun v'' hv'' => ?_
            rw [JsMap.get?_set_self] at hv''
            cases hv''
            obtain ⟨sessions, heq⟩ := hputs.rest
            have heq : v' = _ := heq
            rw [heq]
            exact JsMap.get?_delete_self _ _
          · cases hb
  | updateMemberState => cases hp
  | forward event cId hx ho hm =>
      cases hp
      exact .forward _ _ _ _ _ _

end System

end Twolk.Signaling
