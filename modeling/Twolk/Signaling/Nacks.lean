/-
  Twolk.Signaling.Nacks
  ─────────────────────
  **WHICH NACKS REACH THE CALLER.**

  The nack callbacks of `prepareSpace`, `prepareMember`, `deleteMember` and
  `deleteSpace` throw.  While `publish` runs, that rejects the promise these
  methods return; the coordinator's continuations and workers' answers nack
  after `publish`, and then the exception is theirs.

  Main results:
    * `nack_reaches_caller_iff` — a nack reaches the caller if and only if
      the step is a function of a signaling server, so that `publish` runs,
    * `nack_lost` — a nack that does not.
-/
import Twolk.Coordinator.Nacks
import Twolk.Signaling.Channels

namespace Twolk.Signaling

open Twolk.Lib Coordinator

/-! ## §1. What it is to reach the caller. -/

/-- The request is published by one of the four methods that return a
promise for its answer. -/
def Publisher.ofMethod : Publisher → Bool
  | .prepareSpace .. | .prepareMember .. | .deleteMember .. |
    .deleteSpace .. => true
  | .forward .. | .external => false

/-- The session that awaits the promise. -/
def Publisher.session : Publisher → Option (ServerId × SessionId)
  | .prepareSpace serverId session _ | .prepareMember serverId session .. =>
      some (serverId, session)
  | _ => none

/-- The promise the session awaits is rejected. -/
def Session.rejected (x : Session) : Bool :=
  match x.phase with
  | .preparingSpace (some (.error _)) | .preparingMember (some (.error _)) =>
      true
  | _ => false

/-- One step of the system after the other. -/
abbrev Later : System → System → Prop :=
  Relation.ReflTransGen fun s t => ∃ a obs, machine.step s a = some (t, obs)

/-- The session has emitted `connectionFailed`, or does so when it
resumes, which it can. -/
def System.Reports (s : System) (serverId : ServerId)
    (session : SessionId) : Prop :=
  ∃ x, s.sessionOf serverId session = some x ∧
    (.connectionFailed "" ∈ x.emitted ∨
      ∃ t obs y, machine.step s (.resume serverId session) = some (t, obs) ∧
        t.sessionOf serverId session = some y ∧
        .connectionFailed "" ∈ y.emitted)

/-- In the step from `s` to `s'` publisher `p` is nacked, and the nack
reaches the caller of its method. -/
structure ReachesCaller (s s' : System) (obs : List (Out Publisher))
    (p : Publisher) (message : String) : Prop where
  /-- What the callback throws reaches the executor of the promise. -/
  rejected : ∃ e, Callback.nackThrows p message = some e ∧ .thrown e ∈ obs
  /-- No exception is left in the coordinator's code: nobody's … -/
  handled : ∀ e, .unhandledRejection e ∉ obs
  /-- … and none that a `.catch` of the coordinator handles. -/
  caught : s'.coordinator.tasks.countP (Task.catches p)
    ≤ s.coordinator.tasks.countP (Task.catches p)
  /-- A waiting session emits `connectionFailed`, sooner or later. -/
  reported : ∀ serverId session, p.session = some (serverId, session) →
    ∀ t, Later s' t → t.Reports serverId session

/-! ## §2. A rejected session reports. -/

/-- The session is about to emit `connectionFailed`, or has done so. -/
def Session.Standing (x : Session) : Prop :=
  x.rejected = true ∨ .connectionFailed "" ∈ x.emitted

namespace Server

variable {v v' : Server} {session : SessionId} {x : Session}

/-- What was emitted stays emitted. -/
theorem Keeps.reported (hk : Keeps v v')
    (hx : v.sessions.get? session = some x)
    (hm : .connectionFailed "" ∈ x.emitted) :
    ∃ y, v'.sessions.get? session = some y ∧ y.Standing := by
  obtain ⟨x', hx', hxy⟩ := hk.after hx
  obtain ⟨l, hl, -⟩ := hxy.emitted
  refine ⟨x', hx', .inr ?_⟩
  rw [hl]
  exact List.mem_append_left l hm

/-- A session outside the frame stands where it stood. -/
theorem SessionFrame.stands {p : SessionId → Prop}
    (h : SessionFrame p v v') (hk : Keeps v v')
    (hx : v.sessions.get? session = some x) (hs : x.Standing)
    (hp : x.rejected = true → ¬ p session) :
    ∃ y, v'.sessions.get? session = some y ∧ y.Standing := by
  rcases hs with hr | hm
  · have hstand := h.standing session (hp hr)
    rw [hx] at hstand
    obtain ⟨x', hx', heq⟩ := Option.map_eq_some_iff.mp hstand
    refine ⟨x', hx', .inl ?_⟩
    unfold Session.rejected at hr ⊢
    rwa [(Prod.mk.inj heq).2]
  · exact hk.reported hx hm

/-- A promise that has been rejected is not rejected again. -/
theorem reject_of_rejected (hx : v.sessions.get? session = some x)
    (hr : x.rejected = true) (session' : SessionId) (error : String) :
    (v.reject session' error).sessions.get? session = some x := by
  unfold reject
  rw [JsMap.get?_modify]
  split
  · rename_i h
    rw [← h, hx, Option.map_some]
    unfold Session.rejected at hr
    split at hr
    · rename_i hp
      rw [hp]
    · rename_i hp
      rw [hp]
    · cases hr
  · exact hx

/-- Callbacks leave a rejected session rejected. -/
theorem callback_standing {c : Coord Publisher} {serverId : ServerId}
    (hv : v.Channels) (hc : System.Callback c serverId v v')
    (hx : v.sessions.get? session = some x) (hs : x.Standing) :
    ∃ y, v'.sessions.get? session = some y ∧ y.Standing := by
  have hk := callback_keeps hv.registered hc
  have hother : ∀ {session' : SessionId} {x' : Session},
      v.sessions.get? session' = some x' → x'.rejected = false →
      x.rejected = true → ¬ session = session' := by
    intro session' x' hx' hn hr heq
    rw [heq, hx'] at hx
    cases hx
    rw [hn] at hr
    cases hr
  have hstill : SessionFrame (fun _ => False) v v' →
      ∃ y, v'.sessions.get? session = some y ∧ y.Standing := fun h =>
    h.stands hk hx hs fun _ h => h
  cases hc with
  | relayed hr =>
      cases hr with
      | heard heard => exact hstill (System.hears_frame heard v)
      | acked session' he heard =>
          exact hstill ((emit_frame _ v session' _).trans
            (System.hears_frame heard _))
      | rejected session' error =>
          rcases hs with hr | hm
          · exact ⟨x, reject_of_rejected hx hr session' error, .inl hr⟩
          · exact hk.reported hx hm
      | spacePrepared caps hx' hp hsp =>
          exact (onSpacePrepared_frame v _ _ _ _).stands hk hx hs
            (hother hx' (by simp [Session.rejected, hp]))
      | spaceDeleted uuid => exact hstill (.of_eq rfl rfl)
  | memberPrepared hx' hp =>
      exact (onMemberPrepared_frame v _ _ _ _ _).stands hk hx hs
        (hother hx' (by simp [Session.rejected, hp]))
  | memberDeleted hm => exact hstill (onMemberDeleted_frame _ v _ _)

/-- A change of one session leaves a standing session standing, if it is
not that one. -/
theorem Puts.standing {u : Server} {session' : SessionId} {x' : Session}
    (hp : Puts u session' x' v') (hu : u.sessions = v.sessions)
    (hx : v.sessions.get? session = some x) (hs : x.Standing)
    (hself : session = session' → x'.Standing) :
    ∃ y, v'.sessions.get? session = some y ∧ y.Standing := by
  by_cases heq : session = session'
  · exact ⟨x', by rw [heq, hp.self], hself heq⟩
  · exact ⟨x, by rw [hp.others session heq, hu, hx], hs⟩

/-- A session that resumes reports, or has reported. -/
theorem resume_standing {serverId : ServerId} {session' : SessionId}
    {x' : Session} {p : Server × Option Request}
    (hx' : v.sessions.get? session' = some x')
    (hres : v.resume serverId session' x' = some p)
    (hx : v.sessions.get? session = some x) (hs : x.Standing) :
    ∃ y, p.1.sessions.get? session = some y ∧ y.Standing := by
  -- a rejected session has only one way to resume
  have hmore : ∀ {y : Session} {e : ServerToClientEvent},
      x'.rejected = false → y.emitted = x'.emitted ++ [e] →
      session = session' → y.Standing := by
    intro y e hn he heq
    rw [heq, hx'] at hx
    cases hx
    rcases hs with hr | hm
    · rw [hn] at hr
      cases hr
    · refine .inr ?_
      rw [he]
      exact List.mem_append_left _ hm
  cases resumes_of_resume hx' hres with
  | rejected hp hputs =>
      refine hputs.standing rfl hx hs fun _ => .inr ?_
      exact List.mem_append_right _ List.mem_cons_self
  | spacePrepared hp _ hputs =>
      exact hputs.standing rfl hx hs
        (hmore (by simp [Session.rejected, hp]) rfl)
  | spaceGone hp _ hputs =>
      exact hputs.standing rfl hx hs
        (hmore (by simp [Session.rejected, hp]) rfl)
  | unmirrored hp _ hputs =>
      exact hputs.standing rfl hx hs
        (hmore (by simp [Session.rejected, hp]) rfl)
  | joined hp _ hputs =>
      refine hputs.standing ?_ hx hs
        (hmore (by simp [Session.rejected, hp]) rfl)
      rfl

/-- So do the other functions of a server. -/
theorem call_standing {serverId : ServerId} {a : SystemAction}
    {p : Server × Option Request} (hv : v.Channels)
    (hfresh : ∀ session x, v.sessions.get? session = some x →
      session < v.sessionIdGen)
    (hc : System.ServerCall serverId v a p)
    (hx : v.sessions.get? session = some x) (hs : x.Standing) :
    ∃ y, p.1.sessions.get? session = some y ∧ y.Standing := by
  cases hc with
  | connect auth =>
      exact ⟨x, start_old serverId auth (hfresh session x hx) hx, hs⟩
  | resume hx' hres => exact resume_standing hx' hres hx hs
  | @close session' x' hx' _ =>
      have hself : session = session' →
          Session.Standing { x' with isOpen := false } := by
        intro heq
        rw [heq, hx'] at hx
        cases hx
        exact hs
      cases hm : x'.memberId with
      | none =>
          exact (close_eq_none serverId hx' hm).1.standing rfl hx hs hself
      | some memberId =>
          refine (close_eq_some serverId hx' hm).1.standing ?_ hx hs hself
          rfl
  | updateMemberState newState cId _ _ _ =>
      exact (updateMemberState_frame (fun _ => False) v _ _ _ _).stands
        (updateMemberState_keeps hv.registered _ _ newState cId) hx hs
        fun _ h => h
  | forward => exact ⟨x, hx, hs⟩

end Server

namespace System

/-- The session stands, in this state of the system. -/
def Standing (serverId : ServerId) (session : SessionId) (s : System) :
    Prop :=
  ∃ x, s.sessionOf serverId session = some x ∧ x.Standing

theorem Standing.called {serverId serverId' : ServerId}
    {session : SessionId} {s : System} {v v' : Server}
    (h : Standing serverId session s)
    (hv : s.servers.get? serverId' = some v)
    (hstand : ∀ x, v.sessions.get? session = some x → x.Standing →
      ∃ y, v'.sessions.get? session = some y ∧ y.Standing) :
    Standing serverId session
      { s with servers := s.servers.set serverId' v' } := by
  obtain ⟨x, hx, hs⟩ := h
  by_cases heq : serverId = serverId'
  · subst heq
    obtain ⟨y, hy, hys⟩ := hstand x (get?_of_sessionOf hx hv) hs
    refine ⟨y, ?_, hys⟩
    rw [sessionOf_set_self, hy]
  · refine ⟨x, ?_, hs⟩
    rw [sessionOf_set_of_ne _ _ _ heq, hx]

/-- A move keeps a session where it stands, unless it is about that session. -/
theorem Move.standing {sync : Bool} {s s' : System} {b : Request}
    {reqs : List Request} (hready : Ready s sync b) (h : Move s b s' reqs)
    (hchannels : ∀ serverId v, s.servers.get? serverId = some v →
      v.Channels) {serverId : ServerId} {session : SessionId}
    (hs : Standing serverId session s) : Standing serverId session s' := by
  obtain ⟨x, hx, hxs⟩ := hs
  obtain ⟨v, hv, -⟩ := Option.bind_eq_some_iff.mp hx
  obtain ⟨v', hv', hcall⟩ := h.callback_of hready hv
  obtain ⟨y, hy, hys⟩ := Server.callback_standing (hchannels serverId v hv)
    hcall (get?_of_sessionOf hx hv) hxs
  refine ⟨y, ?_, hys⟩
  rw [sessionOf_eq hv', hy]

/-- A session that stands does so forever. -/
theorem Standing.closed (serverId : ServerId) (session : SessionId) :
    Closed anyStep fun s reqs =>
      Point anyStep s reqs ∧ Standing serverId session s where
  linked h := h.1.linked
  reachable h := h.1.reachable
  flushed out h := ⟨h.1.flushed out, h.2⟩
  started := by
    intro tr s serverId' h _ hn
    refine ⟨h.1.started hn, ?_⟩
    obtain ⟨x, hx, hxs⟩ := h.2
    exact ⟨x, sessionOf_start hn hx, hxs⟩
  called := by
    intro tr s serverId' v a p h hg hv hc
    refine ⟨h.1.called hg hv hc, h.2.called hv fun x hx hxs => ?_⟩
    exact Server.call_standing (h.1.channels hv)
      (h.1.linked.fresh _ _ · · hv) hc hx hxs
  published h hready hm hr := ⟨h.1.published hready hm hr,
    hm.standing hready (fun _ _ => h.1.channels) h.2⟩
  coordinated h hg hready hm hr := ⟨h.1.coordinated hg hready hm hr,
    hm.standing hready (fun _ _ => h.1.channels) h.2⟩

/-- What stands, stands later. -/
theorem Later.standing {serverId : ServerId} {session : SessionId}
    {s t : System} (h : Later s t) (hp : Point anyStep s [])
    (hs : Standing serverId session s) : Standing serverId session t := by
  have hboth : Point anyStep t [] ∧ Standing serverId session t := by
    induction h with
    | refl => exact ⟨hp, hs⟩
    | @tail t u _ hstep ih =>
        obtain ⟨a, obs, hstep⟩ := hstep
        have hany : anyStep ([] : List (Out Publisher)) t a := trivial
        exact (Standing.closed serverId session).step ih hany hstep
  exact hboth.2

/-- A rejected session reports when it resumes. -/
theorem Standing.reports {serverId : ServerId} {session : SessionId}
    {s : System} (h : Standing serverId session s) :
    s.Reports serverId session := by
  obtain ⟨x, hx, hxs⟩ := h
  refine ⟨x, hx, hxs.symm.imp_right fun hr => ?_⟩
  obtain ⟨v, hv, hsession⟩ := Option.bind_eq_some_iff.mp hx
  -- it resumes in the `catch` of `start`
  have hresume : ∃ e, v.resume serverId session x
      = some (v.failJoin session e, none) := by
    unfold Session.rejected at hr
    unfold Server.resume
    split at hr
    · rename_i e hp
      exact ⟨e, by rw [hp]⟩
    · rename_i e hp
      exact ⟨e, by rw [hp]⟩
    · cases hr
  obtain ⟨e, hresume⟩ := hresume
  have hfail := Server.Puts.failJoin (v := v) hsession e
  let t : System :=
    { s with
      out := []
      servers := s.servers.set serverId (v.failJoin session e) }
  have hstep : machine.step s (.resume serverId session)
      = some (t, t.out) := by
    show (act { s with out := [] } (.resume serverId session)).map _ = _
    unfold act
    dsimp only
    rw [hv, Option.bind_some, hsession, Option.bind_some, hresume]
    rfl
  have ht : t.sessionOf serverId session
      = (v.failJoin session e).sessions.get? session := by
    show ((s.servers.set serverId _).get? serverId).bind _ = _
    rw [JsMap.get?_set_self]
    rfl
  rw [hfail.self] at ht
  exact ⟨t, _, _, hstep, ht,
    List.mem_append_right _ List.mem_cons_self⟩

/-! ## §3. A step in which `publish` runs. -/

/-- What a step of the coordinator is, from the state the move began in. -/
theorem base_stretch {s : System} {b : Request} {c : Coord Publisher}
    (hr : (Coordinator.machine Publisher).Reachable s.coordinator)
    (h : Coord.act s.base b = some c) : Stretch s.base b c := by
  have hwf := coordWF_reachable hr
  exact act_stretch { hwf.router with } { hwf.member with }
    { hwf.transport with } h

/-- From `s` to `t`, nothing of `p` stays in the coordinator. -/
structure Passes (p : Publisher) (s t : System) : Prop where
  caught : t.coordinator.tasks.countP (Task.catches p)
    = s.coordinator.tasks.countP (Task.catches p)
  out : ∃ l, t.out = s.out ++ l ∧ ThrownBack l

theorem Passes.refl (p : Publisher) (s : System) : Passes p s s :=
  ⟨rfl, [], (List.append_nil _).symm, .nil⟩

theorem Passes.trans {p : Publisher} {s t u : System} (h : Passes p s t)
    (h' : Passes p t u) : Passes p s u := by
  obtain ⟨l, hl, ht⟩ := h.out
  obtain ⟨l', hl', ht'⟩ := h'.out
  refine ⟨h'.caught.trans h.caught, l ++ l', ?_, ht.append ht'⟩
  rw [hl', hl, List.append_assoc]

/-- A request of a space nacks no one else. -/
theorem stretch_passes {sync : Bool} {s s' : System} {b : Request}
    {reqs : List Request} (p : Publisher) (hb : b.ofSpace = true)
    (h : s.stretch sync b = some (s', reqs)) : Passes p s s' := by
  obtain ⟨hc, hout⟩ := stretch_act h
  have hcont : Contained p s.base s'.coordinator := request_contained hb hc
  obtain ⟨l, hl, ht⟩ := hcont.out
  refine ⟨hcont.caught, l, ?_, ht⟩
  rw [hout, hl]
  rfl

theorem IsUnsubscribe.ofSpace {b : Request} (h : IsUnsubscribe b) :
    b.ofSpace = true := by
  obtain ⟨serverId, uuid, rfl⟩ := h
  rfl

theorem run_passes {sync : Bool} {s s' : System} {b : Request}
    (p : Publisher) (hb : b.ofSpace = true)
    (h : s.run sync b = some s') : Passes p s s' :=
  run_induction (Passes p s) h (.refl p s)
    (fun _ _ hs ht => hs.trans (stretch_passes p hb ht))
    fun _ _ _ _ hu ht hstep =>
      ht.trans (stretch_passes p hu.ofSpace hstep)

/-- The requests of callbacks nack `deleteSpace` only. -/
theorem publishInner_nacks : ∀ {reqs : List Request} {s : System}
    {p : Publisher} {message : String}, (∀ b ∈ reqs, IsUnsubscribe b) →
    (Coordinator.machine Publisher).Reachable s.coordinator →
    p.session ≠ none →
    .nack p message ∈ (reqs.foldl publishInner s).out →
    .nack p message ∈ s.out
  | [], _, _, _, _, _, _, hn => hn
  | b :: reqs, s, p, message, hreqs, hr, hp, hn => by
      have hb := hreqs b List.mem_cons_self
      obtain ⟨s', reqs', hs⟩ := stretch_unsubscribe (s := s) hb
      obtain ⟨obs, hstep, -⟩ := stretch_step hs
      have heq : s.publishInner b = s' := by
        unfold publishInner
        rw [hs]
      rw [List.foldl_cons, heq] at hn
      have hmem := publishInner_nacks
        (fun b' hb' => hreqs b' (List.mem_cons_of_mem _ hb'))
        (hr.step hstep) hp hn
      obtain ⟨hc, hout⟩ := stretch_act hs
      rw [hout] at hmem
      refine (List.mem_append.mp hmem).resolve_right fun hnew => ?_
      obtain ⟨serverId, uuid, rfl⟩ := hb
      rcases nacked_cases (base_stretch hr hc) rfl rfl hnew with
        ⟨hcb, -⟩ | ⟨i, heq⟩ | ⟨hcb, -⟩
      · cases hcb
        exact hp rfl
      · cases heq
      · cases hcb

/-- A session whose request is refused stands. -/
theorem stretch_refused {s s' : System} {b : Request}
    {reqs : List Request} {p : Publisher} {message : String}
    {serverId : ServerId} {session : SessionId}
    (hr : (Coordinator.machine Publisher).Reachable s.coordinator)
    (hready : Ready s true b) (h : s.stretch true b = some (s', reqs))
    (hp : p.session = some (serverId, session))
    (hout : .nack p message ∉ s.out) (hn : .nack p message ∈ s'.out) :
    Standing serverId session s' := by
  obtain ⟨c, hc, heq⟩ := Option.map_eq_some_iff.mp h
  obtain ⟨hc', hs'⟩ := stretch_act h
  have hcc : c = s'.coordinator := Option.some.inj (hc.symm.trans hc')
  rw [← hcc] at hs'
  rw [hs'] at hn
  have hn := (List.mem_append.mp hn).resolve_left hout
  -- the nack was heard in this stretch, and is the answer to `b` itself
  have hself : b.callback = some p ∧
      c.out.filter Out.heard = [.nack p message] := by
    rcases nacked_cases (base_stretch hr hc) rfl rfl hn with
      hself | ⟨i, rfl⟩ | hup
    · exact hself
    · exact nomatch hready.late rfl
    -- an update that waits is answered by a worker, not by this request
    · exact nomatch hready.late hup.1
  obtain ⟨hcb, hheard⟩ := hself
  rw [hheard, deliverAll_singleton] at heq
  -- the callback rejects the promise the session waits for
  have hstands : ∀ {x : Session} {error : String},
      s.sessionOf serverId session = some x →
      (x.phase = .preparingSpace none ∨ x.phase = .preparingMember none) →
      s'.servers = s.servers.modify serverId
        (fun v => v.reject session error) →
      Standing serverId session s' := by
    intro x error hx hphase hv
    obtain ⟨v, hv', hx⟩ := Option.bind_eq_some_iff.mp hx
    unfold Standing
    rw [sessionOf, hv, JsMap.get?_modify, if_pos rfl, hv', Option.map_some,
      Option.bind_some, Server.reject, JsMap.get?_modify, if_pos rfl, hx,
      Option.map_some]
    refine ⟨_, rfl, .inl ?_⟩
    rcases hphase with hphase | hphase
    · rw [hphase]
      rfl
    · rw [hphase]
      rfl
  -- by the request: only these two have a session that waits
  cases hready with
  | subscribe hx hphase =>
      cases hcb
      cases hp
      cases heq
      exact hstands hx (.inl hphase) rfl
  | addMember hx hphase =>
      cases hcb
      cases hp
      cases heq
      exact hstands hx (.inr hphase) rfl
  | removeMember | unsubscribe | forward =>
      cases hcb
      cases hp

/-- **A nack during `publish` reaches the caller.** -/
theorem called_reaches {s s' : System} {serverId : ServerId} {v : Server}
    {a : SystemAction} {q : Server × Option Request} {p : Publisher}
    {message : String} (h : Point anyStep s [])
    (hv : s.servers.get? serverId = some v) (hc : ServerCall serverId v a q)
    (hpub : publish { s with out := [] } serverId q = some s')
    (hp : p.ofMethod = true) (hn : .nack p message ∈ s'.out) :
    ReachesCaller s s' s'.out p message := by
  have hany : anyStep ([] : List (Out Publisher)) s a := trivial
  have hcalled := (h.called hany hv hc).flushed []
  obtain ⟨v', req⟩ := q
  rcases publish_eq hpub with ⟨-, rfl⟩ | ⟨b, rfl, hrun⟩
  · cases hn
  have hready := ready_of_call (h.linked.flushed []) hv hc
  obtain ⟨⟨t, reqs⟩, ht, rfl⟩ := Option.map_eq_some_iff.mp hrun
  obtain ⟨obs, hstep, -, hreqs⟩ := stretch_step ht
  have hspace : b.ofSpace = true := by
    cases hc.requests with
    | subscribe | addMember | removeMember => rfl
    | forward =>
        -- whoever is nacked here called no method
        exfalso
        have hm := stretch_move hcalled.linked hcalled.reachable hready ht
        cases hm.requests_nil_of_ne (by simp)
        obtain ⟨hact, hout⟩ := stretch_act ht
        have hn' : .nack p message ∈ t.coordinator.out := by
          have hn : .nack p message ∈ t.out := hn
          rwa [hout] at hn
        rcases nacked_cases (base_stretch hcalled.reachable hact) rfl rfl
          hn' with ⟨hcb, -⟩ | ⟨i, heq⟩ | ⟨hcb, -⟩
        · cases hcb
          cases hp
        · cases heq
        · cases hcb
  have hpass := run_passes p hspace hrun
  obtain ⟨l, hl, hthrown⟩ := hpass.out
  replace hl : (reqs.foldl publishInner t).out = l := hl
  rw [hl] at hn ⊢
  refine ⟨?_, hthrown.unhandled, Nat.le_of_eq hpass.caught, ?_⟩
  · obtain ⟨e, he⟩ : ∃ e, Callback.nackThrows p message = some e := by
      cases p with
      | prepareSpace | prepareMember | deleteMember | deleteSpace =>
          exact ⟨_, rfl⟩
      | forward | external => cases hp
    exact ⟨e, he, hthrown.thrown p message e hn he⟩
  · intro serverId' session hsession u hlater
    rw [← hl] at hn
    have hm := stretch_move hcalled.linked hcalled.reachable hready ht
    have hr := hcalled.reachable.step hstep
    have hn := publishInner_nacks hreqs hr (by simp [hsession]) hn
    have hstand := stretch_refused hcalled.reachable hready ht hsession
      List.not_mem_nil hn
    have hpoint := hcalled.published hready hm (stretch_act ht).1
    rw [List.append_nil] at hpoint
    obtain ⟨hp', hs'⟩ := (Standing.closed serverId' session).publishInner
      hreqs ⟨hpoint, hstand⟩
    exact (Later.standing hlater hp' hs').reports

/-! ## §4. A step of the coordinator. -/

/-- **A later nack does not reach the caller.** -/
theorem coordinated_escapes {s s' : System} {b : Request} {p : Publisher}
    {message e : String} (h : Point anyStep s []) (hb : ofServer b = false)
    (hrun : run false { s with out := [] } b = some s')
    (hp : p.ofMethod = true) (hn : .nack p message ∈ s'.out)
    (he : Callback.nackThrows p message = some e) :
    .unhandledRejection e ∈ s'.out ∨
      s.coordinator.tasks.countP (Task.catches p)
        < s'.coordinator.tasks.countP (Task.catches p) := by
  obtain ⟨⟨t, reqs⟩, ht, rfl⟩ := Option.map_eq_some_iff.mp hrun
  have hm := stretch_move (h.linked.flushed []) h.reachable
    (.coordinator hb) ht
  have hne : ∀ id cb, b ≠ .removeMemberRequest id cb := by
    intro id cb heq
    rw [heq] at hb
    cases hb
  cases hm.requests_nil_of_ne hne
  obtain ⟨hact, hout⟩ := stretch_act ht
  show _ ∈ t.out ∨ _ < t.coordinator.tasks.countP _
  replace hn : .nack p message ∈ t.out := hn
  rw [hout] at hn ⊢
  have hr : (Coordinator.machine Publisher).Reachable
      ({ s with out := [] } : System).coordinator := h.reachable
  rcases nacked_cases (base_stretch hr hact) rfl rfl hn with
    ⟨hcb, -⟩ | ⟨i, rfl⟩ | ⟨-, n, r, hr, hcb⟩
  · rw [external_of_ofServer hb hcb] at hp
    cases hp
  · have hquiet : s.base.unnacked := fun _ _ => List.not_mem_nil
    have hesc : Escapes p e s.base t.coordinator :=
      resumed_escapes hquiet hact hn he
    exact hesc
  · obtain ⟨serverId, session, event, cId, hforward⟩ :=
      h.linked.updates n r hr
    rw [← hcb, hforward] at hp
    cases hp

end System

/-- **A nack reaches the caller exactly when `publish` runs**, that is, when
the step is a function of a signaling server. -/
theorem nack_reaches_caller_iff {s s' : System} {a : SystemAction}
    {obs : List (Out Publisher)} {p : Publisher} {message : String}
    (h : machine.Reachable s) (hs : machine.step s a = some (s', obs))
    (hp : p.ofMethod = true) (hn : .nack p message ∈ obs) :
    ReachesCaller s s' obs p message ↔ ∀ b, a ≠ .coordinator b := by
  obtain ⟨past, tr, hrun⟩ := h
  have hpoint := System.Run.point hrun
  obtain ⟨t, ht, heq⟩ := Option.map_eq_some_iff.mp hs
  cases heq
  cases System.act_acts ht with
  | started => cases hn
  | called hv hc hpub =>
      refine iff_of_true (System.called_reaches hpoint hv hc hpub hp hn) ?_
      rintro b rfl
      cases hc
  | @coordinator b _ hb hrun =>
      refine iff_of_false (fun hreach => ?_) fun hne => hne b rfl
      obtain ⟨e, he, -⟩ := hreach.rejected
      rcases System.coordinated_escapes hpoint hb hrun hp hn he with hu | hlt
      · exact hreach.handled e hu
      · exact absurd hreach.caught (Nat.not_le_of_lt hlt)

/-- A client connects to a server. -/
def annConnects : SystemAction :=
  .connect 1 ⟨"room", ⟨"Ann"⟩, ⟨false, false⟩⟩

/-- A space that does not exist: the coordinator nacks while `prepareSpace`
publishes. -/
theorem nack_reaches_caller_iff_unknown : ∃ s s' obs,
    machine.step s annConnects = some (s', obs) ∧
    .nack (.prepareSpace 1 0 "room") "space not found" ∈ obs ∧
    (ReachesCaller s s' obs (.prepareSpace 1 0 "room") "space not found" ↔
      ∀ b, annConnects ≠ .coordinator b) := by
  obtain ⟨past, s, tr, hr, hp⟩ := Machine.Run.exists_of_exec
    (M := machine) (G := anyStep) (l := [.startServer 1])
    (p := fun r => decide (∃ q ∈ machine.step r.2.1 annConnects,
      .nack (.prepareSpace 1 0 "room") "space not found" ∈ q.2))
    rfl (by decide)
  obtain ⟨⟨s', obs⟩, hs, hn⟩ := of_decide_eq_true hp
  exact ⟨s, s', obs, hs, hn,
    nack_reaches_caller_iff hr.reachable hs rfl hn⟩

/-- No media worker is connected: the transition the subscription waits for
fails after `publish`, and `prepareSpace` never settles. -/
theorem nack_lost : ∃ s s' obs, machine.Reachable s ∧
    machine.step s (.coordinator (.resume 0)) = some (s', obs) ∧
    .nack (.prepareSpace 1 0 "room") "no media workers available" ∈ obs ∧
    (∃ x ∈ s'.sessionOf 1 0, x.stage = .preparingSpace ∧ x.emitted = []) ∧
    ¬ ReachesCaller s s' obs (.prepareSpace 1 0 "room")
      "no media workers available" := by
  obtain ⟨past, s, tr, hr, hp⟩ := Machine.Run.exists_of_exec
    (M := machine) (G := anyStep)
    (l := [.coordinator (.createSpaceRequest "room" ⟨"Room", ""⟩
      "subscription-driven" .external), .startServer 1, annConnects,
      .coordinator (.resume 0)])
    (p := fun r => decide (∃ q ∈ machine.step r.2.1 (.coordinator (.resume 0)),
      .nack (.prepareSpace 1 0 "room") "no media workers available" ∈ q.2 ∧
      .unhandledRejection
        "failed to prepare space: no media workers available" ∈ q.2 ∧
      ∃ x ∈ q.1.sessionOf 1 0, x.stage = .preparingSpace ∧ x.emitted = []))
    rfl (by decide)
  obtain ⟨⟨s', obs⟩, hs, hn, hu, hx⟩ := of_decide_eq_true hp
  exact ⟨s, s', obs, hr.reachable, hs, hn, hx,
    fun hreach => hreach.handled _ hu⟩

end Twolk.Signaling
