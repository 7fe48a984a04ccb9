/-
  Twolk.Signaling.Owners
  ──────────────────────
  **WHO A MEMBER ID BELONGS TO.**

  A session is given its member id by the ack of `prepareMember`, and keeps
  it.  The coordinator issues an id once, so an id has one session on one
  server, whose space is the member's owning space.  A server that removes a
  member removes one of its own sessions' members.

  Main results:
    * `call_held`, `Transfers.held` — who holds what after a server function
      and after a move,
    * `Point.owners` — at every point of a run, an id has one owner.
-/
import Twolk.Signaling.Channels

namespace Twolk.Signaling

open Twolk.Lib Coordinator

/-! ## §1. The member id of a session. -/

/-- The member id the session was given. -/
def Session.holds (x : Session) : Option MemberId :=
  match x.phase with
  | .preparingMember (some (.ok memberId)) => some memberId
  | _ => x.listening

namespace Server

/-- The space and the member id of a session that was given one. -/
def held (v : Server) (session : SessionId) : Option (Uuid × MemberId) :=
  (v.sessions.get? session).bind fun x =>
    x.holds.map fun m => (x.auth.spaceUuid, m)

/-- A session whose join is under way listens for nobody. -/
def Prepares (v : Server) : Prop :=
  ∀ session x, v.sessions.get? session = some x →
    x.stage = .preparingSpace ∨ x.stage = .preparingMember →
    x.listening = none

/-- A session that keeps its place prepares what it prepared. -/
theorem Prepares.keeps {v v' : Server} (h : Prepares v)
    (hk : Keeps v v') : Prepares v' := by
  intro session x' hx' hs
  obtain ⟨x, hx, hxy⟩ := hk.before hx'
  rw [hxy.stage] at hs
  rw [hxy.listening]
  exact h session x hx hs

/-- A change of one session keeps what the others prepare. -/
theorem Prepares.puts {v u v' : Server} {session : SessionId} {x' : Session}
    (h : Prepares v) (hu : u.sessions = v.sessions)
    (hp : Puts u session x' v')
    (hself : x'.stage = .preparingSpace ∨ x'.stage = .preparingMember →
      x'.listening = none) : Prepares v' := by
  intro session' y hy hs
  by_cases heq : session' = session
  · rw [heq, hp.self] at hy
    cases hy
    exact hself hs
  · rw [hp.others session' heq, hu] at hy
    exact h session' y hy hs

/-- A session that goes on keeps it as well. -/
theorem Prepares.resume {v : Server} {serverId : ServerId}
    {session : SessionId} {x : Session} {p : Server × Option Request}
    (h : Prepares v) (hx : v.sessions.get? session = some x)
    (hres : v.resume serverId session x = some p) : Prepares p.1 := by
  have hself := h session x hx
  have hbefore : x.phase = .preparingSpace (some (.ok ())) →
      x.listening = none := by
    intro hp
    apply hself
    exact .inl (by simp [Session.stage, hp])
  cases resumes_of_resume hx hres with
  | rejected hp hputs =>
      exact h.puts rfl hputs (by simp [Session.stage])
  | spacePrepared hp _ hputs => exact h.puts rfl hputs fun _ => hbefore hp
  | spaceGone hp _ hputs => exact h.puts rfl hputs fun _ => hbefore hp
  | unmirrored hp _ hputs =>
      exact h.puts rfl hputs (by simp [Session.stage])
  | joined hp _ hputs =>
      refine h.puts ?_ hputs (by simp [Session.stage])
      rfl

/-! ## §2. Who holds what after a callback. -/

variable {v v' : Server}

theorem held_of_sessions (h : v'.sessions = v.sessions)
    (session : SessionId) : v'.held session = v.held session := by
  unfold held
  rw [h]

/-- Outside its frame, a session holds what it held. -/
theorem held_of_frame {p : SessionId → Prop} (hf : SessionFrame p v v')
    (hk : Keeps v v') {session : SessionId} (hp : ¬ p session) :
    v'.held session = v.held session := by
  have hstand := hf.standing session hp
  unfold held
  rcases hk.sessions session with ⟨hn, hn'⟩ | ⟨x, x', hx, hx', hxx⟩
  · rw [hn, hn']
  · rw [hx, hx'] at hstand ⊢
    have heq := Option.some.inj hstand
    have hauth : x'.auth = x.auth := (Prod.mk.inj heq).1
    have hphase : x'.phase = x.phase := (Prod.mk.inj heq).2
    have hholds : x'.holds = x.holds := by
      unfold Session.holds
      rw [hphase, hxx.listening]
    show x'.holds.map _ = x.holds.map _
    rw [hholds, hauth]

/-- One session has changed, and holds what it held. -/
theorem held_of_puts {u : Server} {session : SessionId} {x x' : Session}
    (hp : Puts u session x' v') (hu : u.sessions = v.sessions)
    (hx : v.sessions.get? session = some x) (ha : x'.auth = x.auth)
    (hm : x'.holds = x.holds) (session' : SessionId) :
    v'.held session' = v.held session' := by
  unfold held
  by_cases heq : session' = session
  · rw [heq, hp.self, hx]
    show x'.holds.map _ = x.holds.map _
    rw [hm, ha]
  · rw [hp.others session' heq, hu]

/-- What a session holds when its phase is written. -/
theorem held_setPhase {session : SessionId} {x : Session} {phase : Phase}
    (hx : v.sessions.get? session = some x)
    (hm : Session.holds { x with phase } = x.holds) (session' : SessionId) :
    (v.setPhase session phase).held session' = v.held session' :=
  held_of_puts (.setPhase hx phase) rfl hx rfl hm session'

/-- A rejection takes no member from its session. -/
theorem reject_held (v : Server) (session : SessionId) (error : String)
    (session' : SessionId) :
    (v.reject session error).held session' = v.held session' := by
  cases hx : v.sessions.get? session with
  | none =>
      apply held_of_sessions
      unfold reject
      dsimp only
      refine JsMap.modify_eq_self fun y hy => ?_
      rw [hx] at hy
      cases hy
  | some x =>
      refine held_of_puts (.modify hx _) rfl hx ?_ ?_ session'
      · split <;> rfl
      · cases hp : x.phase with
        | joined | failed => rfl
        | preparingSpace result | preparingMember result =>
            cases result with
            | none =>
                unfold Session.holds
                rw [hp]
            | some r => rfl

/-- Only the ack of `prepareMember` gives a session an id. -/
theorem relays_held {c : Coord Publisher} (h : Registered v)
    (hr : System.Relays c v v') (session : SessionId) :
    v'.held session = v.held session := by
  have hk := relays_keeps h hr
  cases hr with
  | heard heard =>
      exact held_of_frame (System.hears_frame (p := fun _ => False) heard v)
        hk id
  | @acked _ _ _ e session' he heard =>
      have hf := (emit_frame (fun _ => False) v session' e).trans
        (System.hears_frame heard (v.emit session' e))
      exact held_of_frame hf hk id
  | rejected session' error => exact reject_held v session' error session
  | @spacePrepared session' x space caps hx hp hs =>
      by_cases heq : session = session'
      · -- its phase is another, but still without an id
        have hholds : Session.holds { x with
            phase := .preparingSpace (some (.ok ())) } = x.holds := by
          unfold Session.holds
          rw [hp]
        rw [heq]
        unfold onSpacePrepared
        dsimp only
        split
        · exact held_setPhase hx hholds session'
        · obtain ⟨hsessions, -⟩ := mirror_sessions x.auth.spaceUuid
            ⟨x.auth.spaceUuid, space.data,
              SpaceService.clientSideMembers c space⟩ caps v
          rw [held_setPhase (x := x) (by rw [hsessions, hx]) hholds]
          exact held_of_sessions hsessions session'
      · exact held_of_frame (onSpacePrepared_frame v session' _ _ _) hk heq
  | spaceDeleted uuid => rfl

/-- The ack of `prepareMember` gives its session the id, and no other. -/
theorem onMemberPrepared_held {session : SessionId} {x : Session}
    (h : Registered v) (hprep : Prepares v)
    (hx : v.sessions.get? session = some x)
    (hp : x.phase = .preparingMember none) (data : MemberData)
    (state : MemberState) (id : MemberId) (session' : SessionId) :
    v.held session = none ∧
      (v.onMemberPrepared session x.auth.spaceUuid data state id).held
        session' = if session' = session then some (x.auth.spaceUuid, id)
          else v.held session' := by
  have hs : x.stage = .preparingMember := by simp [Session.stage, hp]
  have hk := onMemberPrepared_keeps h x.auth.spaceUuid data state id hx hs
  have hf := onMemberPrepared_frame v session x.auth.spaceUuid data state id
  refine ⟨?_, ?_⟩
  · have hnone : x.holds = none := by
      unfold Session.holds
      rw [hp]
      exact hprep session x hx (.inr hs)
    unfold held
    rw [hx]
    show x.holds.map _ = none
    rw [hnone]
    rfl
  · by_cases heq : session' = session
    · rw [if_pos heq, heq]
      -- the last thing the callback does is to write the phase
      have hphase : ∀ u : Server, (∃ y, u.sessions.get? session = some y ∧
          y.auth = x.auth) →
          (u.setPhase session (.preparingMember (some (.ok id)))).held session
            = some (x.auth.spaceUuid, id) := by
        rintro u ⟨y, hy, ha⟩
        unfold held
        rw [(Puts.setPhase hy _).self]
        show some (y.auth.spaceUuid, id) = _
        rw [ha]
      unfold onMemberPrepared
      apply hphase
      split
      · exact ⟨x, hx, rfl⟩
      · split
        · exact ⟨x, hx, rfl⟩
        · rename_i ref _
          have hauth := (broadcast_frame (fun _ => False)
            (v.addMember id ref data state)
            (((v.addMember id ref data state).membersOf ref).filter (· ≠ id))
            (.memberJoin ⟨id, data, state⟩)).auth session
          have hold : ((v.addMember id ref data state).sessions.get?
              session).map Session.auth = some x.auth := by
            show (v.sessions.get? session).map Session.auth = _
            rw [hx]
            rfl
          rw [hold] at hauth
          exact Option.map_eq_some_iff.mp hauth
    · rw [if_neg heq]
      exact held_of_frame hf hk heq

/-- Nor does the deletion of a member. -/
theorem onMemberDeleted_held (h : Registered v) (serverId : ServerId)
    (memberId : MemberId) (session : SessionId) :
    (v.onMemberDeleted serverId memberId).1.held session = v.held session :=
  held_of_frame (onMemberDeleted_frame (fun _ => False) v serverId memberId)
    (onMemberDeleted_keeps h serverId memberId) id

/-! ## §3. Who holds what after a server function. -/

/-- Nor does a session that goes on. -/
theorem resume_held {serverId : ServerId} {session : SessionId} {x : Session}
    {p : Server × Option Request} (hx : v.sessions.get? session = some x)
    (hres : v.resume serverId session x = some p) (session' : SessionId) :
    p.1.held session' = v.held session' := by
  cases resumes_of_resume hx hres with
  | rejected hp hputs =>
      refine held_of_puts hputs rfl hx rfl ?_ session'
      unfold Session.holds
      rcases hp with hp | hp
      · rw [hp]
        rfl
      · rw [hp]
        rfl
  | spacePrepared hp _ hputs =>
      refine held_of_puts hputs rfl hx rfl ?_ session'
      unfold Session.holds
      rw [hp]
      rfl
  | spaceGone hp _ hputs =>
      refine held_of_puts hputs rfl hx rfl ?_ session'
      unfold Session.holds
      rw [hp]
      rfl
  | unmirrored hp _ hputs =>
      -- the id it was given is the one it listens for
      refine held_of_puts hputs rfl hx rfl ?_ session'
      unfold Session.holds
      rw [hp]
  | @joined w memberId space hp _ hputs =>
      refine held_of_puts (u := { v with
        memberIdToChannel := v.memberIdToChannel.set memberId session })
        hputs rfl hx rfl ?_ session'
      unfold Session.holds
      rw [hp]

/-- No server function gives a session an id. -/
theorem call_held {serverId : ServerId} {a : SystemAction}
    {p : Server × Option Request} (h : v.Channels)
    (hfresh : ∀ session x, v.sessions.get? session = some x →
      session < v.sessionIdGen)
    (hc : System.ServerCall serverId v a p) (session : SessionId) :
    p.1.held session = v.held session := by
  cases hc with
  | connect auth =>
      obtain ⟨result, sessions, heq, hget, -⟩ := v.start_eq serverId auth
      rw [heq]
      show (sessions.get? session).bind _ = (v.sessions.get? session).bind _
      rw [hget]
      by_cases hs : session = v.sessionIdGen
      · rw [if_pos hs]
        -- the new session was nobody before
        cases hx : v.sessions.get? session with
        | none => rfl
        | some x =>
            have hlt := hfresh session x hx
            exact absurd hs (Nat.ne_of_lt hlt)
      · rw [if_neg hs]
  | resume hx hres => exact resume_held hx hres session
  | @close session' x hx ho =>
      have hholds : Session.holds { x with isOpen := false } = x.holds := rfl
      cases hm : x.memberId with
      | none =>
          exact held_of_puts (close_eq_none serverId hx hm).1 rfl hx rfl
            hholds session
      | some memberId =>
          exact held_of_puts (u := { v with
            memberIdToChannel := v.memberIdToChannel.delete memberId })
            (close_eq_some serverId hx hm).1 rfl hx rfl hholds session
  | updateMemberState newState cId _ _ _ =>
      exact held_of_frame
        (updateMemberState_frame (fun _ => False) v _ _ newState cId)
        (updateMemberState_keeps h.registered _ _ newState cId) id
  | forward => rfl

end Server

/-! ## §4. One owner for each id. -/

namespace System

/-- The space and the member id of a session that was given one. -/
def held (s : System) (serverId : ServerId) (session : SessionId) :
    Option (Uuid × MemberId) :=
  (s.servers.get? serverId).bind fun v => v.held session

/-- Session `session` of `serverId` was given `m`, a member of `uuid`. -/
def Holds (s : System) (serverId : ServerId) (session : SessionId)
    (uuid : Uuid) (m : MemberId) : Prop :=
  s.held serverId session = some (uuid, m)

theorem Holds.server {s : System} {serverId : ServerId}
    {session : SessionId} {uuid : Uuid} {m : MemberId} {v : Server}
    (h : s.Holds serverId session uuid m)
    (hv : s.servers.get? serverId = some v) :
    v.held session = some (uuid, m) := by
  unfold Holds held at h
  rwa [hv] at h

/-- The member ids of the sessions, and the removals that are published. -/
structure Owners (s : System) (reqs : List Request) : Prop where
  space : ∀ serverId session uuid m, s.Holds serverId session uuid m →
    s.coordinator.spaceOf m = some uuid
  unique : ∀ serverId session uuid serverId' session' uuid' m,
    s.Holds serverId session uuid m →
    s.Holds serverId' session' uuid' m →
    serverId = serverId' ∧ session = session'
  removing : ∀ serverId m,
    .removeMemberRequest m (.deleteMember serverId m) ∈ reqs →
    ∃ session uuid, s.Holds serverId session uuid m

/-- Where nobody is given an id, every id keeps its owner. -/
theorem Owners.of_held {s s' : System} {reqs reqs' : List Request}
    (h : Owners s reqs) (held : ∀ S session, s'.held S session
      = s.held S session)
    (spaceOf : ∀ m, s'.coordinator.spaceOf m = s.coordinator.spaceOf m)
    (removing : ∀ serverId m,
      .removeMemberRequest m (.deleteMember serverId m) ∈ reqs' →
      ∃ session uuid, s.Holds serverId session uuid m) :
    Owners s' reqs' where
  space S session uuid m hm := by
    unfold Holds at hm
    rw [held] at hm
    rw [spaceOf]
    exact h.space S session uuid m hm
  unique S session uuid S' session' uuid' m hm hm' := by
    unfold Holds at hm hm'
    rw [held] at hm hm'
    exact h.unique S session uuid S' session' uuid' m hm hm'
  removing S m hm := by
    obtain ⟨session, uuid, hold⟩ := removing S m hm
    refine ⟨session, uuid, ?_⟩
    show s'.held S session = _
    rw [held]
    exact hold

theorem held_set {s : System} {serverId : ServerId} {v v' : Server}
    (hv : s.servers.get? serverId = some v)
    (h : ∀ session, v'.held session = v.held session) (S : ServerId)
    (session : SessionId) :
    held { s with servers := s.servers.set serverId v' } S session
      = s.held S session := by
  show ((s.servers.set serverId v').get? S).bind _ = _
  unfold held
  by_cases heq : S = serverId
  · rw [heq, JsMap.get?_set_self, hv]
    exact h session
  · rw [JsMap.get?_set_of_ne _ _ heq]

/-- A server that starts has no session. -/
theorem held_started {s : System} {serverId : ServerId}
    (hn : s.servers.get? serverId = none) (S : ServerId)
    (session : SessionId) :
    held { s with servers := s.servers.set serverId .initial } S session
      = s.held S session := by
  show ((s.servers.set serverId _).get? S).bind _ = _
  unfold held
  by_cases heq : S = serverId
  · rw [heq, JsMap.get?_set_self, hn]
    rfl
  · rw [JsMap.get?_set_of_ne _ _ heq]

/-- A move that adds no member gives nobody an id. -/
theorem held_relayed {s s' : System} {b : Request}
    {reqs : List Request} (hm : Move s b s' reqs)
    (hchannels : ∀ serverId v, s.servers.get? serverId = some v →
      v.Channels)
    (hv : ∀ serverId v', s'.servers.get? serverId = some v' →
      ∃ v, s.servers.get? serverId = some v ∧ Relays s.coordinator v v')
    (S : ServerId) (session : SessionId) :
    s'.held S session = s.held S session := by
  unfold held
  have hserves := hm.serves S
  cases hv' : s'.servers.get? S with
  | none =>
      rw [hv'] at hserves
      cases hget : s.servers.get? S with
      | none => rfl
      | some v =>
          rw [hget] at hserves
          cases hserves
  | some v' =>
      obtain ⟨v, hget, hr⟩ := hv S v' hv'
      rw [hget]
      exact Server.relays_held (hchannels S v hget).registered hr session

/-- What a move publishes are unsubscribes. -/
theorem Move.requests {s s' : System} {b : Request} {reqs : List Request}
    (h : Move s b s' reqs) : ∀ b' ∈ reqs, IsUnsubscribe b' := by
  cases h with
  | removed =>
      intro b' hb'
      obtain ⟨v, -, h⟩ := Option.bind_eq_some_iff.mp (Option.mem_toList.mp hb')
      exact onMemberDeleted_request h
  | _ => exact fun _ h => absurd h List.not_mem_nil

variable {G : Guard System SystemAction (Out Publisher)}

/-- At every point of a run, sessions prepare what they hold. -/
theorem Point.prepares {s : System} {reqs : List Request}
    (h : Point G s reqs) : ∀ serverId v,
      s.servers.get? serverId = some v → v.Prepares := by
  refine h.server Server.Prepares (fun _ _ hx => (nomatch hx)) ?_ ?_
  · intro tr s serverId v a p hpoint _ hv hI hc
    cases hc with
    | connect auth =>
        intro session x hx hs
        rcases Server.start_sessions hx with hx | ⟨result, rfl⟩
        · exact hI session x hx hs
        · rfl
    | resume hx hres => exact hI.resume hx hres
    | @close session x hx _ =>
        cases hm : x.memberId with
        | none =>
            exact hI.puts rfl (Server.close_eq_none serverId hx hm).1
              (hI session x hx)
        | some memberId =>
            exact hI.puts (u := { v with
              memberIdToChannel := v.memberIdToChannel.delete memberId })
              rfl (Server.close_eq_some serverId hx hm).1 (hI session x hx)
    | updateMemberState newState cId _ _ _ =>
        exact hI.keeps (Server.updateMemberState_keeps
          (hpoint.channels hv).registered _ _ newState cId)
    | forward => exact hI
  · intro s reqs serverId v v' hpoint hv hI hc
    exact hI.keeps
      (Server.callback_keeps (hpoint.channels hv).registered hc)

/-- A joined session holds its member id. -/
theorem held_of_memberId {v : Server} (h : v.Channels) {session : SessionId}
    {x : Session} {m : MemberId} (hx : v.sessions.get? session = some x)
    (hm : x.memberId = some m) :
    v.held session = some (x.auth.spaceUuid, m) := by
  have ho := h.orderly session x hx
  have hholds : x.holds = some m := by
    unfold Session.holds
    rw [ho.phase_eq hm]
    exact (ho.joined hm).1
  unfold Server.held
  rw [hx]
  show x.holds.map _ = _
  rw [hholds]
  rfl

/-- A removal leaves the ids with their sessions. -/
theorem held_removed {s s' : System} {serverId : ServerId}
    {memberId : MemberId}
    (hchannels : ∀ serverId v, s.servers.get? serverId = some v →
      v.Channels)
    (hv : s'.servers = s.servers.modify serverId
      fun v => (v.onMemberDeleted serverId memberId).1)
    (S : ServerId) (session : SessionId) :
    s'.held S session = s.held S session := by
  unfold held
  rw [hv]
  by_cases heq : S = serverId
  · rw [heq, JsMap.get?_modify_self]
    cases hget : s.servers.get? serverId with
    | none => rfl
    | some v =>
        exact Server.onMemberDeleted_held
          (hchannels serverId v hget).registered serverId memberId session
  · rw [JsMap.get?_modify_of_ne _ _ heq]

/-- A session is given the next id, and nobody else anything. -/
theorem held_added {s s' : System} {serverId : ServerId}
    {session : SessionId} {x : Session}
    (hchannels : ∀ serverId v, s.servers.get? serverId = some v →
      v.Channels)
    (hprepares : ∀ serverId v, s.servers.get? serverId = some v →
      v.Prepares)
    (hx : s.sessionOf serverId session = some x)
    (hp : x.phase = .preparingMember none)
    (hv : s'.servers = s.servers.modify serverId
      fun v => v.onMemberPrepared session x.auth.spaceUuid
        x.auth.memberData x.auth.joinState s.coordinator.memberIdGen) :
    s.held serverId session = none ∧ ∀ S session', s'.held S session'
      = if S = serverId ∧ session' = session then
          some (x.auth.spaceUuid, s.coordinator.memberIdGen)
        else s.held S session' := by
  obtain ⟨v, hget, hxv⟩ := Option.bind_eq_some_iff.mp hx
  have hprep := Server.onMemberPrepared_held
    (hchannels serverId v hget).registered (hprepares serverId v hget) hxv hp
    x.auth.memberData x.auth.joinState s.coordinator.memberIdGen
  refine ⟨?_, fun S session' => ?_⟩
  · unfold held
    rw [hget]
    exact (hprep session).1
  · unfold held
    rw [hv]
    by_cases heq : S = serverId
    · rw [heq, JsMap.get?_modify_self, hget]
      show Server.held _ session' = _
      rw [(hprep session').2]
      by_cases hs : session' = session
      · rw [if_pos hs, if_pos ⟨rfl, hs⟩]
      · rw [if_neg hs, if_neg fun hn => hs hn.2]
        rfl
    · rw [JsMap.get?_modify_of_ne _ _ heq, if_neg fun hn => heq hn.1]

/-- A session is given the next id. -/
theorem Owners.added {s s' : System} {reqs reqs' : List Request}
    {serverId : ServerId} {session : SessionId} {x : Session}
    (h : Owners s reqs) (hI : MemberWF s.coordinator)
    (hchannels : ∀ serverId v, s.servers.get? serverId = some v →
      v.Channels)
    (hprepares : ∀ serverId v, s.servers.get? serverId = some v →
      v.Prepares)
    (hx : s.sessionOf serverId session = some x)
    (hp : x.phase = .preparingMember none)
    (hf : MemberFrame (MemberService.add s.coordinator x.auth.memberData
      x.auth.joinState x.auth.spaceUuid) s'.coordinator)
    (hv : s'.servers = s.servers.modify serverId
      fun v => v.onMemberPrepared session x.auth.spaceUuid
        x.auth.memberData x.auth.joinState s.coordinator.memberIdGen)
    (removing : ∀ S m, .removeMemberRequest m (.deleteMember S m) ∈ reqs' →
      ∃ session uuid, s.Holds S session uuid m) : Owners s' reqs' := by
  obtain ⟨hnone, hheld⟩ := held_added hchannels hprepares hx hp hv
  have hspace : ∀ m, s'.coordinator.spaceOf m
      = if m = s.coordinator.memberIdGen then some x.auth.spaceUuid
        else s.coordinator.spaceOf m := by
    intro m
    rw [hf.spaceOf, spaceOf_add]
  -- whoever held an id before holds another one
  have hother : ∀ S session' uuid m, s.Holds S session' uuid m →
      m ≠ s.coordinator.memberIdGen := by
    intro S session' uuid m hm heq
    have hspace := h.space S session' uuid m hm
    rw [heq, hI.spaceOf_new] at hspace
    cases hspace
  have hcases : ∀ S session' uuid m, s'.Holds S session' uuid m →
      (S = serverId ∧ session' = session ∧ uuid = x.auth.spaceUuid ∧
        m = s.coordinator.memberIdGen) ∨ s.Holds S session' uuid m := by
    intro S session' uuid m hm
    unfold Holds at hm
    rw [hheld] at hm
    split at hm
    · rename_i hself
      cases hm
      exact .inl ⟨hself.1, hself.2, rfl, rfl⟩
    · exact .inr hm
  refine ⟨?_, ?_, ?_⟩
  · intro S session' uuid m hm
    rw [hspace]
    rcases hcases S session' uuid m hm with ⟨-, -, rfl, rfl⟩ | hold
    · rw [if_pos rfl]
    · rw [if_neg (hother S session' uuid m hold)]
      exact h.space S session' uuid m hold
  · intro S₁ session₁ uuid₁ S₂ session₂ uuid₂ m h₁ h₂
    rcases hcases _ _ _ _ h₁ with ⟨rfl, rfl, -, rfl⟩ | hold₁
    · rcases hcases _ _ _ _ h₂ with ⟨rfl, rfl, -, -⟩ | hold₂
      · exact ⟨rfl, rfl⟩
      · exact absurd rfl (hother _ _ _ _ hold₂)
    · rcases hcases _ _ _ _ h₂ with ⟨-, -, -, rfl⟩ | hold₂
      · exact absurd rfl (hother _ _ _ _ hold₁)
      · exact h.unique _ _ _ _ _ _ m hold₁ hold₂
  · intro S m hm
    obtain ⟨session', uuid, hold⟩ := removing S m hm
    refine ⟨session', uuid, ?_⟩
    show s'.held S session' = _
    rw [hheld, if_neg ?_]
    · exact hold
    · rintro ⟨rfl, rfl⟩
      unfold Holds at hold
      rw [hnone] at hold
      cases hold

/-- A move leaves every id with its owner. -/
theorem Move.owners {sync : Bool} {s s' : System} {b : Request}
    {reqs reqs' : List Request} (hready : Ready s sync b)
    (hm : Move s b s' reqs) (h : Owners s reqs')
    (hI : MemberWF s.coordinator)
    (hchannels : ∀ serverId v, s.servers.get? serverId = some v →
      v.Channels)
    (hprepares : ∀ serverId v, s.servers.get? serverId = some v →
      v.Prepares) {later : List Request} (hlater : ∀ b' ∈ later, b' ∈ reqs') :
    Owners s' (reqs ++ later) := by
  have hremoving : ∀ S m, .removeMemberRequest m (.deleteMember S m)
      ∈ reqs ++ later → ∃ session uuid, s.Holds S session uuid m := by
    intro S m hin
    rcases List.mem_append.mp hin with hin | hin
    · obtain ⟨_, _, heq⟩ := hm.requests _ hin
      cases heq
    · exact h.removing S m (hlater _ hin)
  cases hm.transfers hready with
  | relayed hf hv =>
      exact h.of_held (held_relayed hm hchannels hv) hf.spaceOf hremoving
  | @removed serverId memberId member _ _ _ hf hv =>
      exact h.of_held (held_removed hchannels hv) hf.spaceOf hremoving
  | added hx hp _ hf hv =>
      exact h.added hI hchannels hprepares hx hp hf hv hremoving

/-- **At every point of a run an id has one owner.** -/
theorem Point.owners {s : System} {reqs : List Request}
    (h : Point G s reqs) : Owners s reqs := by
  induction h with
  | initial =>
      refine ⟨?_, ?_, ?_⟩
      · exact fun _ _ _ _ hm => nomatch hm
      · exact fun _ _ _ _ _ _ _ hm => nomatch hm
      · exact fun _ _ hm => nomatch hm
  | flushed out _ ih => exact ⟨ih.space, ih.unique, ih.removing⟩
  | started _ hn ih =>
      exact ih.of_held (held_started hn) (fun _ => rfl)
        fun _ _ hm => nomatch hm
  | @called tr s serverId v a p h hg hv hc ih =>
      have hheld := Server.call_held (h.channels hv)
        (h.linked.fresh _ _ · · hv) hc
      refine ih.of_held (held_set hv hheld) (fun _ => rfl) ?_
      intro S m hm
      obtain ⟨v', req⟩ := p
      have hreq : req = some _ := Option.mem_toList.mp hm
      subst hreq
      cases hc.requests with
      | @removeMember session x _ hx hmem =>
          refine ⟨session, x.auth.spaceUuid, ?_⟩
          unfold Holds held
          rw [hv]
          exact held_of_memberId (h.channels hv) hx hmem
  | published h hready hm _ ih =>
      exact hm.owners hready ih (coordWF_reachable h.reachable).member
        (fun _ _ => h.channels) h.prepares
        fun _ hb => List.mem_cons_of_mem _ hb
  | @coordinated tr s s' b reqs h _ hready hm _ ih =>
      have howners := hm.owners hready ih
        (coordWF_reachable h.reachable).member (fun _ _ => h.channels)
        h.prepares (fun _ hb => hb)
      rwa [List.append_nil] at howners

/-- Every member of the coordinator was given to a session. -/
def Owned (s : System) : Prop :=
  ∀ m ∈ s.coordinator.members.keys, ∃ S session uuid,
    s.Holds S session uuid m

/-- No session lets go, and no member is new. -/
theorem Owned.of_held {s s' : System} (h : Owned s)
    (held : ∀ S session, s'.held S session = s.held S session)
    (hm : ∀ m ∈ s'.coordinator.members.keys,
      m ∈ s.coordinator.members.keys) : Owned s' := by
  intro m hin
  obtain ⟨S, session, uuid, hold⟩ := h m (hm m hin)
  refine ⟨S, session, uuid, ?_⟩
  show s'.held S session = _
  rw [held]
  exact hold

/-- **At every point of a run the members have owners.** -/
theorem Point.owned {s : System} {reqs : List Request}
    (h : Point G s reqs) : Owned s := by
  have hmove : ∀ {sync s b s' reqs reqs'}, Point G s reqs →
      Ready s sync b → Move s b s' reqs' → Owned s → Owned s' := by
    intro sync s b s' reqs reqs' h hready hm ih
    have hchannels : ∀ serverId v, s.servers.get? serverId = some v →
        v.Channels := fun _ _ => h.channels
    cases hm.transfers hready with
    | relayed hf hv =>
        refine ih.of_held (held_relayed hm hchannels hv) fun m hin => ?_
        rwa [hf.members] at hin
    | removed _ _ _ hf hv =>
        refine ih.of_held (held_removed hchannels hv) fun m hin => ?_
        rw [hf.members] at hin
        exact (JsMap.mem_keys_delete.mp hin).2
    | @added _ serverId session x hx hp _ hf hv =>
        obtain ⟨hnone, hheld⟩ := held_added hchannels h.prepares hx hp hv
        intro m hin
        rw [hf.members] at hin
        rcases JsSet.mem_keys_add.mp hin with rfl | hold
        · refine ⟨serverId, session, x.auth.spaceUuid, ?_⟩
          show s'.held serverId session = _
          rw [hheld, if_pos ⟨rfl, rfl⟩]
        · obtain ⟨S, session', uuid, hold⟩ := ih m hold
          refine ⟨S, session', uuid, ?_⟩
          show s'.held S session' = _
          rw [hheld, if_neg ?_]
          · exact hold
          · rintro ⟨rfl, rfl⟩
            unfold Holds at hold
            rw [hnone] at hold
            cases hold
  induction h with
  | initial => exact fun _ hin => absurd hin List.not_mem_nil
  | flushed _ _ ih => exact ih
  | started _ hn ih => exact ih.of_held (held_started hn) fun _ hin => hin
  | called h _ hv hc ih =>
      have hheld := Server.call_held (h.channels hv)
        (h.linked.fresh _ _ · · hv) hc
      exact ih.of_held (held_set hv hheld) fun _ hin => hin
  | published h hready hm _ ih => exact hmove h hready hm ih
  | coordinated h _ hready hm _ ih => exact hmove h hready hm ih

end System

end Twolk.Signaling
