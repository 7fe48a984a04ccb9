/-
  Twolk.Signaling.Ghosts
  ──────────────────────
  **WHOSE CLIENT IS GONE.**

  A member lives as long as its session: the close handler asks the
  coordinator to remove it.  But the handler knows the member only once
  `start` has run to its end.  A channel that closes during the join leaves
  `start` running, which registers the closed channel; and a `start` that
  fails after the coordinator has accepted the member tells nobody.

  Main result: `no_ghosts` — while a join ends with the channel open and its
  space mirrored, and no removal throws, every member at rest has a session
  whose channel is open and registered.
-/
import Twolk.Signaling.Connected
import Twolk.Signaling.Presence

namespace Twolk.Signaling

open Twolk.Lib Coordinator

/-! ## §1. Members and their channels. -/

/-- No settled promise waits to be read. -/
def Session.atRest (x : Session) : Bool :=
  match x.phase with
  | .preparingSpace (some _) | .preparingMember (some _) => false
  | _ => true

namespace System

/-- Nothing is under way at the coordinator, and no session has anything to
resume with. -/
def Quiet (s : System) : Prop :=
  s.coordinator.quiescent ∧ ∀ S session x,
    s.sessionOf S session = some x → x.atRest = true

theorem quiet_iff (s : System) : s.Quiet ↔ s.coordinator.quiescent ∧
    ∀ e ∈ s.servers.entries, ∀ f ∈ e.2.sessions.entries,
      f.2.atRest = true := by
  refine and_congr_right fun _ => ⟨fun h e he f hf => ?_,
    fun h S session x hx => ?_⟩
  · refine h e.1 f.1 f.2 (Option.bind_eq_some_iff.mpr ⟨e.2, ?_, ?_⟩)
    · exact JsMap.mem_entries.mp he
    · exact JsMap.mem_entries.mp hf
  · obtain ⟨v, hv, hx⟩ := Option.bind_eq_some_iff.mp hx
    exact h (S, v) (JsMap.mem_entries.mpr hv) (session, x)
      (JsMap.mem_entries.mpr hx)

instance (s : System) : Decidable s.Quiet :=
  decidable_of_iff _ s.quiet_iff.symm

/-- Member `m` belongs to session `session` of `S`, whose channel is open
and registered under its id. -/
def Attends (s : System) (S : ServerId) (session : SessionId)
    (m : MemberId) : Prop :=
  ∃ v x, s.servers.get? S = some v ∧ v.sessions.get? session = some x ∧
    x.isOpen = true ∧ x.memberId = some m ∧
    v.memberIdToChannel.get? m = some session

/-- Neither the coordinator nor a server keeps a member nobody is there
for. -/
structure NoGhosts (s : System) : Prop where
  coordinator : ∀ m ∈ s.coordinator.members.keys,
    ∃ S session, s.Attends S session m
  /-- A server added `m` for the session it gave the id to. -/
  server : ∀ S v session uuid m, s.servers.get? S = some v →
    v.held session = some (uuid, m) → m ∈ v.members.keys →
    s.Attends S session m

end System

namespace Server

/-- If `start` has a member when it resumes, its channel is open and its
space mirrored. -/
def joinsOpen (v : Server) (x : Session) : Prop :=
  match x.phase with
  | .preparingMember (some (.ok _)) =>
      x.isOpen = true ∧ (v.getSpace x.auth.spaceUuid).isSome = true
  | _ => True

instance (v : Server) : ∀ x, Decidable (v.joinsOpen x)
  | ⟨auth, isOpen, _, _, .preparingMember (some (.ok _)), _, _⟩ =>
      inferInstanceAs (Decidable
        (isOpen = true ∧ (v.getSpace auth.spaceUuid).isSome = true))
  | ⟨_, _, _, _, .preparingMember (some (.error _)), _, _⟩
  | ⟨_, _, _, _, .preparingMember none, _, _⟩
  | ⟨_, _, _, _, .preparingSpace _, _, _⟩
  | ⟨_, _, _, _, .joined, _, _⟩
  | ⟨_, _, _, _, .failed _, _, _⟩ => .isTrue trivial

end Server

/-- Joins end with an open channel and a mirrored space, and the removal of
whoever leaves does not throw. -/
def System.staysAttended : Guard System SystemAction (Out Publisher)
  | _, s, .resume serverId session => ∀ v ∈ s.servers.get? serverId,
      ∀ x ∈ v.sessions.get? session, v.joinsOpen x
  | _, s, .close serverId session => ∀ x ∈ s.sessionOf serverId session,
      ∀ m ∈ x.memberId, ¬ s.coordinator.ignores
        (.removeMemberRequest m (.deleteMember serverId m))
  | _, _, _ => True

instance (tr : List (Out Publisher)) (s : System) :
    ∀ a, Decidable (System.staysAttended tr s a)
  | .resume serverId session => inferInstanceAs (Decidable
      (∀ v ∈ s.servers.get? serverId, ∀ x ∈ v.sessions.get? session,
        v.joinsOpen x))
  | .close serverId session => inferInstanceAs (Decidable
      (∀ x ∈ s.sessionOf serverId session, ∀ m ∈ x.memberId,
        ¬ s.coordinator.ignores
          (.removeMemberRequest m (.deleteMember serverId m))))
  | .startServer _ | .connect .. | .updateMemberState .. | .forward .. |
    .coordinator _ => .isTrue trivial

/-! ## §2. A removal that does not throw. -/

/-- The coordinator carries out what it does not ignore. -/
theorem removed_of_act {c c' : Coord Publisher} (hwf : CoordWF c)
    {id : MemberId} {cb : Publisher}
    (h : c.act (.removeMemberRequest id cb) = some c')
    (hi : ¬ c.ignores (.removeMemberRequest id cb)) :
    id ∉ c'.members.keys := by
  cases act_stretch hwf.router hwf.member hwf.transport h with
  | silent hcb => cases hcb
  | served _ hq => cases hq
  | refused hcb hr h =>
      rw [h.frame.members.members]
      exact hr
  | ignored _ hi' => exact absurd hi' hi
  | asked hw => cases hw
  | removed _ _ h =>
      rw [h.frame.members.members]
      exact fun hin => (JsMap.mem_keys_delete.mp hin).1 rfl

/-! ## §3. Who tends a member. -/

namespace Server

/-- The session that was given `m` is about to join, or there as `m`. -/
inductive Tends (v : Server) (session : SessionId) (uuid : Uuid)
    (m : MemberId) : Prop
  | joining (hs : v.stageOf session = some .preparingMember)
      (hm : v.spaces.has uuid = true → m ∈ v.members.keys) :
      Tends v session uuid m
  | joined {x : Session} (hx : v.sessions.get? session = some x)
      (ho : x.isOpen = true) (hid : x.memberId = some m)
      (hm : m ∈ v.members.keys) : Tends v session uuid m

variable {v v' : Server} {session : SessionId} {uuid : Uuid} {m : MemberId}

/-- A session goes on tending its member. -/
theorem Tends.of_keeps (hk : Keeps v v')
    (hspace : v'.spaces.has uuid = true →
      v.spaces.has uuid = true ∨ m ∈ v'.members.keys)
    (hmem : m ∈ v.members.keys → m ∈ v'.members.keys)
    (h : v.Tends session uuid m) : v'.Tends session uuid m := by
  cases h with
  | joining hs hm =>
      refine .joining ((hk.stageOf session).trans hs) fun hhas => ?_
      rcases hspace hhas with hold | hin
      · exact hmem (hm hold)
      · exact hin
  | joined hx ho hid hm =>
      obtain ⟨x', hx', hxx⟩ := hk.after hx
      refine .joined hx' ?_ (hxx.memberId.trans hid) (hmem hm)
      rw [hxx.rest]
      exact ho

/-- A change of another session does not end it. -/
theorem Tends.of_session
    (hx : v'.sessions.get? session = v.sessions.get? session)
    (hspaces : v'.spaces = v.spaces) (hmem : v'.members = v.members)
    (h : v.Tends session uuid m) : v'.Tends session uuid m := by
  cases h with
  | joining hs hm =>
      refine .joining ?_ ?_
      · unfold stageOf at hs ⊢
        rwa [hx]
      · rwa [hspaces, hmem]
  | joined hx' ho hid hm =>
      refine .joined (hx.trans hx') ho hid ?_
      rwa [hmem]

/-- A promise that was rejected gave nobody an id. -/
theorem held_of_rejected (hprep : Prepares v) {x : Session}
    {error : String} (hx : v.sessions.get? session = some x)
    (hp : x.phase = .preparingSpace (some (.error error)) ∨
      x.phase = .preparingMember (some (.error error))) :
    v.held session = none := by
  rcases hp with hp | hp
  · exact held_of_preparingSpace hprep hx hp
  · have hlisten : x.listening = none := by
      apply hprep session x hx
      exact .inr (by simp [Session.stage, hp])
    unfold held Session.holds
    rw [hx, Option.bind_some, hp, hlisten]
    rfl

/-- What the next stretch of `start` leaves to a session with an id. -/
theorem Tends.resume {serverId : ServerId} {session' : SessionId}
    {x : Session} {p : Server × Option Request} (hprep : Prepares v)
    (hx : v.sessions.get? session' = some x)
    (hres : v.resume serverId session' x = some p) (hg : v.joinsOpen x)
    (hheld : v.held session = some (uuid, m))
    (h : v.Tends session uuid m) : p.1.Tends session uuid m := by
  -- the step writes one session; what others tend to is as before
  have hputs : ∀ {u v' : Server} {x' : Session}, Puts u session' x' v' →
      u.sessions = v.sessions → u.spaces = v.spaces →
      u.members = v.members → (session = session' →
        v'.spaces = v.spaces → v'.members = v.members →
        v'.sessions.get? session = some x' → v'.Tends session uuid m) →
      v'.Tends session uuid m := by
    intro u v' x' hputs hu hspaces hmem hself
    have hget := hputs.self
    have hothers := hputs.others
    obtain ⟨table, heq⟩ := hputs.rest
    have hspaces' : v'.spaces = v.spaces := by
      rw [heq]
      exact hspaces
    have hmem' : v'.members = v.members := by
      rw [heq]
      exact hmem
    by_cases hs : session = session'
    · exact hself hs hspaces' hmem' (hs ▸ hget)
    · refine h.of_session ?_ hspaces' hmem'
      rw [hothers session hs, hu]
  -- a session that holds nobody is not the one in question
  have hnobody : v.held session' = none → session = session' → False := by
    rintro hnone rfl
    rw [hnone] at hheld
    cases hheld
  -- by how the session goes on: in most cases it held nobody
  cases resumes_of_resume hx hres with
  | rejected hp h' =>
      refine hputs h' rfl rfl rfl fun hs _ _ _ => ?_
      exact (hnobody (held_of_rejected hprep hx hp) hs).elim
  | spacePrepared hp _ h' =>
      refine hputs h' rfl rfl rfl fun hs _ _ _ => ?_
      exact (hnobody (held_of_preparingSpace hprep hx hp) hs).elim
  | spaceGone hp _ h' =>
      refine hputs h' rfl rfl rfl fun hs _ _ _ => ?_
      exact (hnobody (held_of_preparingSpace hprep hx hp) hs).elim
  -- the guard excludes a join into a space that is not mirrored
  | unmirrored hp hs _ =>
      unfold joinsOpen at hg
      rw [hp] at hg
      have hsome := hg.2
      rw [hs] at hsome
      cases hsome
  | @joined _ memberId space hp hs h' =>
      unfold joinsOpen at hg
      rw [hp] at hg
      refine hputs h' rfl rfl rfl fun heq _ hmem hget => ?_
      subst heq
      -- it joins, and was joining before
      rw [held_of_prepared hx hp] at hheld
      cases hheld
      refine .joined hget hg.1 rfl ?_
      rw [hmem]
      cases h with
      | joining _ hm =>
          obtain ⟨ref, href, -⟩ := Option.bind_eq_some_iff.mp hs
          apply hm
          rw [JsMap.has, href]
          rfl
      | joined _ _ _ hm => exact hm

/-- The close handler lets go of a member, or asks for its removal. -/
theorem Tends.close {serverId : ServerId} {session' : SessionId}
    {x : Session} (hchannels : v.Channels)
    (hx : v.sessions.get? session' = some x)
    (h : v.Tends session uuid m) :
    (v.close serverId session' x).1.Tends session uuid m ∨
      .removeMemberRequest m (.deleteMember serverId m)
        ∈ (v.close serverId session' x).2.toList := by
  cases hid : x.memberId with
  | none =>
      have hputs := (close_eq_none serverId hx hid).1
      have hself := hputs.self
      have hothers := hputs.others
      obtain ⟨table, heq⟩ := hputs.rest
      rw [heq] at hself hothers ⊢
      left
      by_cases hs : session = session'
      · subst hs
        cases h with
        | joining hstage hm =>
            refine .joining ?_ hm
            unfold stageOf at hstage ⊢
            rw [hx, Option.map_some] at hstage
            rw [hself, Option.map_some]
            exact hstage
        | joined hx' _ hid' _ =>
            rw [hx] at hx'
            cases hx'
            rw [hid] at hid'
            cases hid'
      · exact h.of_session (hothers session hs) rfl rfl
  | some memberId =>
      obtain ⟨hputs, hreq⟩ := close_eq_some serverId hx hid
      have hothers := hputs.others
      by_cases hs : session = session'
      · subst hs
        right
        cases h with
        | joining hstage _ =>
            -- it would not have joined
            have ho := hchannels.orderly session x hx
            unfold stageOf at hstage
            rw [hx, Option.map_some, Option.some.injEq] at hstage
            rw [ho.memberId_eq_none (by rw [hstage]; decide)] at hid
            cases hid
        | joined hx' _ hid' hm =>
            rw [hx] at hx'
            cases hx'
            rw [hid] at hid'
            cases hid'
            rw [hreq]
            unfold deleteMember
            rw [if_pos (JsMap.has_eq_true_iff_mem.mpr hm)]
            exact List.mem_singleton_self _
      · left
        obtain ⟨table, heq⟩ := hputs.rest
        rw [heq] at hothers ⊢
        exact .of_session (v := v) (hothers session hs) rfl rfl h

/-- What a server function leaves to a session with an id. -/
theorem Tends.call {serverId : ServerId} {a : SystemAction}
    {p : Server × Option Request} (hchannels : v.Channels)
    (hprep : Prepares v)
    (hfresh : ∀ session x, v.sessions.get? session = some x →
      session < v.sessionIdGen) (hc : System.ServerCall serverId v a p)
    (hg : ∀ session' x, a = .resume serverId session' →
      v.sessions.get? session' = some x → v.joinsOpen x)
    (hheld : v.held session = some (uuid, m))
    (h : v.Tends session uuid m) : p.1.Tends session uuid m ∨
      .removeMemberRequest m (.deleteMember serverId m) ∈ p.2.toList := by
  have hf := call_mirrorFrame hc
  cases hc with
  | connect auth =>
      obtain ⟨result, table, heq, hget, -⟩ := v.start_eq serverId auth
      rw [heq]
      left
      refine .of_session (v := v) ?_ rfl rfl h
      show table.get? session = _
      rw [hget, if_neg]
      -- the new session was given nobody
      rintro rfl
      obtain ⟨x, hx, -⟩ := Option.bind_eq_some_iff.mp hheld
      exact Nat.lt_irrefl _ (hfresh _ x hx)
  | resume hx hres =>
      exact .inl (h.resume hprep hx hres (hg _ _ rfl hx) hheld)
  | close hx _ => exact h.close hchannels hx
  | updateMemberState newState cId _ _ _ =>
      left
      refine h.of_keeps (updateMemberState_keeps hchannels.registered _ _
        newState cId) ?_ ?_
      · rw [hf.spaces]
        exact .inl
      · rw [hf.members]
        exact id
  | forward => exact .inl h

/-! ## §4. Callbacks. -/

variable {c : Coord Publisher}

/-- A mirror that is new has every member of its space. -/
theorem relays_members (hw : Mirrored v) (hI : MemberWF c)
    (hr : System.Relays c v v') :
    (∀ m, m ∈ v.members.keys → m ∈ v'.members.keys) ∧
      ∀ uuid m, m ∈ c.membersOf uuid → v'.spaces.has uuid = true →
        v.spaces.has uuid = true ∨ m ∈ v'.members.keys := by
  -- what leaves the mirrors alone adds nobody and no space
  have hframe : ∀ {u : Server}, MirrorFrame v u →
      (∀ m, m ∈ v.members.keys → m ∈ u.members.keys) ∧
        ∀ uuid m, m ∈ c.membersOf uuid → u.spaces.has uuid = true →
          v.spaces.has uuid = true ∨ m ∈ u.members.keys := by
    intro u hf
    rw [hf.members, hf.spaces]
    exact ⟨fun _ h => h, fun _ _ _ h => .inl h⟩
  cases hr with
  | heard heard => exact hframe (hears_mirrorFrame heard v)
  | @acked _ _ _ e session he heard =>
      have hemit : MirrorFrame v (v.emit session e) := .of_eq rfl rfl rfl rfl
      exact hframe (hemit.trans (hears_mirrorFrame heard _))
  | rejected session error => exact hframe (.of_eq rfl rfl rfl rfl)
  -- a snapshot is mirrored only where the space is not
  | @spacePrepared session x space caps hx hp hs =>
      rw [onSpacePrepared_eq]
      by_cases hhas : v.spaces.has x.auth.spaceUuid = true
      · rw [if_pos hhas]
        exact hframe (.of_eq rfl rfl rfl rfl)
      · rw [if_neg hhas]
        obtain ⟨-, hspaces, -, -, hmembers⟩ := hw.snapshot x.auth.spaceUuid
          ⟨x.auth.spaceUuid, space.data,
            SpaceService.clientSideMembers c space⟩ caps
        dsimp only at hspaces hmembers ⊢
        generalize List.foldl _ _ _ = w at hspaces hmembers ⊢
        -- the members of the snapshot are added to those that are there
        refine ⟨fun m hm => ?_, fun uuid m hin hhas' => ?_⟩
        · refine JsMap.mem_keys.mpr ?_
          show (w.members.get? m).isSome = true
          rw [hmembers]
          split
          · rfl
          · exact JsMap.mem_keys.mp hm
        -- in the new space they are all the members of the coordinator
        · by_cases heq : uuid = x.auth.spaceUuid
          · right
            rw [heq] at hin
            refine JsMap.mem_keys.mpr ?_
            show (w.members.get? m).isSome = true
            rw [hmembers, if_pos ((mem_clientSideMembers hI hs).mpr hin)]
            rfl
          · left
            have hhas' : w.spaces.has uuid = true := hhas'
            rw [hspaces, JsMap.has, JsMap.get?_set_of_ne _ _ heq] at hhas'
            exact hhas'
  -- a space that is removed takes no member along
  | spaceDeleted uuid =>
      refine ⟨fun _ h => h, fun uuid' m _ hhas => .inl ?_⟩
      have hin := JsMap.has_eq_true_iff_mem.mp hhas
      exact JsMap.has_eq_true_iff_mem.mpr (JsMap.mem_keys_delete.mp hin).2

/-- What is relayed does not end it. -/
theorem Tends.relays (hw : Mirrored v) (hI : MemberWF c)
    (hreg : Registered v) (hr : System.Relays c v v')
    (hin : m ∈ c.membersOf uuid) (h : v.Tends session uuid m) :
    v'.Tends session uuid m := by
  obtain ⟨hmem, hnew⟩ := relays_members hw hI hr
  exact h.of_keeps (relays_keeps hreg hr) (hnew uuid m hin) (hmem m)

/-- The removal of another member does not end it. -/
theorem Tends.memberDeleted {serverId : ServerId} {memberId : MemberId}
    (hreg : Registered v) (hne : m ≠ memberId)
    (h : v.Tends session uuid m) :
    (v.onMemberDeleted serverId memberId).1.Tends session uuid m := by
  refine h.of_keeps (onMemberDeleted_keeps hreg serverId memberId)
    (fun hhas => .inl ?_) fun hm => ?_
  · rwa [System.onMemberDeleted_spaces] at hhas
  · cases href : v.members.get? memberId with
    | none =>
        unfold onMemberDeleted
        rw [href]
        exact hm
    | some ref =>
        rw [onMemberDeleted_eq serverId href,
          (broadcast_mirrorFrame _ _ _).members]
        unfold removeMember
        rw [href]
        exact JsMap.mem_keys_delete.mpr ⟨hne, hm⟩

/-- The new member is in the store, if its space is mirrored, and the
others stay. -/
theorem onMemberPrepared_members {id : MemberId}
    (hnew : v.members.get? id = none) (data : MemberData)
    (state : MemberState) :
    (∀ m, m ∈ v.members.keys →
      m ∈ (v.onMemberPrepared session uuid data state id).members.keys) ∧
      (v.spaces.has uuid = true →
        id ∈ (v.onMemberPrepared session uuid data state id).members.keys) := by
  rw [onMemberPrepared_eq hnew]
  cases href : v.spaces.get? uuid with
  | none =>
      refine ⟨fun _ h => h, fun hhas => ?_⟩
      rw [JsMap.has, href] at hhas
      cases hhas
  | some ref =>
      have hkeys : ∀ m, m ∈ (((v.addMember id ref data state).broadcast
          (((v.addMember id ref data state).membersOf ref).filter (· ≠ id))
          (.memberJoin ⟨id, data, state⟩)).setPhase session
            (.preparingMember (some (.ok id)))).members.keys ↔
          m = id ∨ m ∈ v.members.keys := by
        intro m
        show m ∈ (Server.members (Server.broadcast _ _ _)).keys ↔ _
        rw [(broadcast_mirrorFrame _ _ _).members]
        exact JsMap.mem_keys_set
      exact ⟨fun m hm => (hkeys m).mpr (.inr hm),
        fun _ => (hkeys id).mpr (.inl rfl)⟩

/-- Nor does a prepared member. -/
theorem Tends.memberPrepared (hreg : Registered v) {id : MemberId}
    (hnew : v.members.get? id = none) {session' : SessionId} {x : Session}
    (hx : v.sessions.get? session' = some x)
    (hp : x.phase = .preparingMember none) (uuid' : Uuid)
    (data : MemberData) (state : MemberState)
    (h : v.Tends session uuid m) :
    (v.onMemberPrepared session' uuid' data state id).Tends session uuid
      m := by
  have hk := onMemberPrepared_keeps hreg uuid' data state id hx
    (by simp [Session.stage, hp])
  refine h.of_keeps hk (fun hhas => .inl ?_)
    ((onMemberPrepared_members hnew data state).1 m)
  rwa [System.onMemberPrepared_spaces] at hhas

end Server

/-! ## §5. Every point of a run. -/

namespace System

/-- Every member that a session was given is tended, or is about to be
removed. -/
structure Tended (s : System) (reqs : List Request) : Prop where
  members : ∀ S v session uuid m, s.servers.get? S = some v →
    v.held session = some (uuid, m) → m ∈ s.coordinator.members.keys →
    v.Tends session uuid m ∨
      .removeMemberRequest m (.deleteMember S m) ∈ reqs
  /-- That removal does not throw, and nothing else is published with it. -/
  removing : ∀ S m, .removeMemberRequest m (.deleteMember S m) ∈ reqs →
    reqs = [.removeMemberRequest m (.deleteMember S m)] ∧
      ¬ s.coordinator.ignores (.removeMemberRequest m (.deleteMember S m))

variable {G : Guard System SystemAction (Out Publisher)}

/-- **After a move every member is tended**: the only one that was not is
gone. -/
theorem Move.tended {sync : Bool} {s s' : System} {b : Request}
    {reqs later : List Request} (hpoint : Point G s later)
    (hready : Ready s sync b) (hm : Move s b s' reqs)
    (ha : s.base.act b = some s'.coordinator)
    (h : Tended s [b]) {S : ServerId} {v' : Server} {session : SessionId}
    {uuid : Uuid} {m : MemberId} (hv' : s'.servers.get? S = some v')
    (hheld : v'.held session = some (uuid, m))
    (hin : m ∈ s'.coordinator.members.keys) :
    v'.Tends session uuid m := by
  -- the message that is served is not about this member's removal
  have hI := (coordWF_reachable hpoint.reachable).member
  have htended : ∀ {S v session uuid m}, s.servers.get? S = some v →
      v.held session = some (uuid, m) → m ∈ s.coordinator.members.keys →
      m ∈ s'.coordinator.members.keys → v.Tends session uuid m := by
    intro S v session uuid m hv hheld hin hin'
    refine (h.members S v session uuid m hv hheld hin).resolve_right ?_
    intro hb
    obtain ⟨heq, hi⟩ := h.removing S m hb
    cases heq
    exact removed_of_act hpoint.baseWF ha hi hin'
  -- by what the move does to members: nothing, one less, or one more
  cases hm.transfers hready with
  | relayed hf hv =>
      obtain ⟨v, hget, hr⟩ := hv S v' hv'
      have hreg := (hpoint.channels hget).registered
      rw [Server.relays_held hreg hr] at hheld
      have hold : m ∈ s.coordinator.members.keys := by
        rw [← hf.members]
        exact hin
      have howner := (hpoint.sound hget).owner session uuid m hheld
      exact (htended hget hheld hold hin).relays (hpoint.mirrored S v hget)
        hI hreg hr ((hI.mem uuid m).mpr ⟨hold, howner⟩)
  -- the member that goes is another one
  | @removed S₀ memberId member _ _ _ hf hv =>
      obtain ⟨hne, hold⟩ : m ≠ memberId ∧ m ∈ s.coordinator.members.keys := by
        rw [hf.members] at hin
        exact JsMap.mem_keys_delete.mp hin
      rw [hv] at hv'
      rcases JsMap.get?_modify_cases hv' with ⟨rfl, v, hget, rfl⟩ | ⟨-, hget⟩
      · have hreg := (hpoint.channels hget).registered
        rw [Server.onMemberDeleted_held hreg] at hheld
        exact (htended hget hheld hold hin).memberDeleted hreg hne
      · exact htended hget hheld hold hin
  -- the member that comes may be the one in question
  | @added _ S₀ session₀ x hx hp _ hf hv =>
      have hcases : m = s.coordinator.memberIdGen ∨
          m ∈ s.coordinator.members.keys := by
        rw [hf.members] at hin
        exact JsSet.mem_keys_add.mp hin
      rw [hv] at hv'
      rcases JsMap.get?_modify_cases hv' with ⟨rfl, v, hget, rfl⟩ | ⟨-, hget⟩
      · have hreg := (hpoint.channels hget).registered
        have hx := get?_of_sessionOf hx hget
        obtain ⟨hother, hnew⟩ := hpoint.next_id hget
        have hprep := (Server.onMemberPrepared_held hreg
          (hpoint.prepares S v hget) hx hp x.auth.memberData x.auth.joinState
          s.coordinator.memberIdGen session).2
        rw [hprep] at hheld
        by_cases heq : session = session₀
        · -- it was given the id just now
          rw [if_pos heq] at hheld
          cases hheld
          have hstage : x.stage = .preparingMember := by
            simp [Session.stage, hp]
          refine .joining ?_ fun hhas => ?_
          · rw [(Server.onMemberPrepared_keeps hreg _ _ _ _ hx
              hstage).stageOf, heq]
            unfold Server.stageOf
            rw [hx, Option.map_some, hstage]
          · rw [onMemberPrepared_spaces] at hhas
            exact (Server.onMemberPrepared_members hnew _ _).2 hhas
        · rw [if_neg heq] at hheld
          have hold := hcases.resolve_left (hother session uuid m hheld)
          exact (htended hget hheld hold hin).memberPrepared hreg hnew hx hp
            _ _ _
      · have hother := (hpoint.next_id hget).1 session uuid m hheld
        exact htended hget hheld (hcases.resolve_left hother) hin

/-- What is published with a removal is the removal. -/
theorem Tended.head {s : System} {b : Request} {reqs : List Request}
    (h : Tended s (b :: reqs)) : Tended s [b] where
  members S v session uuid m hv hheld hin := by
    refine (h.members S v session uuid m hv hheld hin).imp_right fun hb => ?_
    obtain ⟨heq, -⟩ := h.removing S m hb
    cases heq
    exact List.mem_singleton_self _
  removing S m hb := by
    have heq := List.mem_singleton.mp hb
    subst heq
    exact ⟨rfl, (h.removing S m List.mem_cons_self).2⟩

/-- After a move no removal is left to publish. -/
theorem Move.tended_later {sync : Bool} {s s' : System} {b : Request}
    {reqs later : List Request} (hpoint : Point G s (b :: later))
    (hready : Ready s sync b) (hm : Move s b s' reqs)
    (ha : s.base.act b = some s'.coordinator)
    (h : Tended s (b :: later)) : Tended s' (reqs ++ later) where
  members _ _ _ _ _ hv' hheld hin :=
    .inl (hm.tended hpoint hready ha h.head hv' hheld hin)
  removing S m hb := by
    rcases List.mem_append.mp hb with hb | hb
    · obtain ⟨_, _, heq⟩ := hm.requests _ hb
      cases heq
    · obtain ⟨heq, -⟩ := h.removing S m (List.mem_cons_of_mem _ hb)
      cases heq
      cases hb

/-- At every point of a guarded run every member is tended. -/
theorem Point.tended {s : System} {reqs : List Request}
    (h : Point staysAttended s reqs) : Tended s reqs := by
  -- by induction on the point: nobody is there at first
  induction h with
  | initial =>
      refine ⟨?_, ?_⟩
      · exact fun _ _ _ _ _ hv => nomatch hv
      · exact fun _ _ hb => nomatch hb
  | flushed _ _ ih => exact ⟨ih.members, ih.removing⟩
  -- a new server holds nobody
  | @started s serverId _ hn ih =>
      refine ⟨fun S v session uuid m hv hheld hin => ?_,
        fun _ _ hb => nomatch hb⟩
      have hv : (s.servers.set serverId .initial).get? S = some v := hv
      rw [JsMap.get?_set] at hv
      split at hv
      · cases hv
        cases hheld
      · exact ih.members S v session uuid m hv hheld hin
  -- a call: the server that is called, and the others as they were
  | @called tr s serverId v a p h hg hv hc ih =>
      have hchannels := h.channels hv
      have hfresh : ∀ session x, v.sessions.get? session = some x →
          session < v.sessionIdGen :=
        fun session x => h.linked.fresh serverId v session x hv
      refine ⟨fun S v' session uuid m hv' hheld hin => ?_, fun S m hb => ?_⟩
      · have hv' : (s.servers.set serverId p.1).get? S = some v' := hv'
        rw [JsMap.get?_set] at hv'
        split at hv'
        · rename_i heq
          cases hv'
          rw [heq]
          rw [Server.call_held hchannels hfresh hc] at hheld
          have hold := (ih.members serverId v session uuid m hv hheld
            hin).resolve_right List.not_mem_nil
          refine hold.call hchannels (h.prepares _ _ hv) hfresh hc ?_ hheld
          rintro session' x rfl hx
          exact hg v hv x hx
        · exact .inl ((ih.members S v' session uuid m hv' hheld
            hin).resolve_right List.not_mem_nil)
      -- a removal that is requested is of a member of a closed session
      · obtain ⟨v', req⟩ := p
        obtain rfl : req = some _ := Option.mem_toList.mp hb
        refine ⟨rfl, ?_⟩
        cases hc.requests with
        | @removeMember session x _ hx hid =>
            refine hg x ?_ m hid
            exact (sessionOf_eq hv session).trans hx
  | published h hready hm ha ih => exact hm.tended_later h hready ha ih
  -- what the coordinator does later is not a request of a server
  | @coordinated tr s s' b reqs h _ hready hm ha ih =>
      have hb : Tended s [b] := by
        refine ⟨fun S v session uuid m hv hheld hin => ?_, fun S m hb => ?_⟩
        · exact .inl ((ih.members S v session uuid m hv hheld
            hin).resolve_right List.not_mem_nil)
        · obtain rfl := List.mem_singleton.mp hb
          cases hready with
          | coordinator hof => cases hof
      refine ⟨fun S v' session uuid m hv' hheld hin =>
        .inl (hm.tended h hready ha hb hv' hheld hin), fun S m hb => ?_⟩
      obtain ⟨_, _, heq⟩ := hm.requests _ hb
      cases heq

/-- At rest, whoever tends a member attends it. -/
theorem attends_of_tends {s : System} (h : Point G s []) (hq : s.Quiet)
    {S : ServerId} {v : Server} {session : SessionId} {uuid : Uuid}
    {m : MemberId} (hv : s.servers.get? S = some v)
    (hheld : v.held session = some (uuid, m))
    (ht : v.Tends session uuid m) : s.Attends S session m := by
  cases ht with
  | joining hs _ =>
      exfalso
      obtain ⟨x, hx, hholds⟩ := Option.bind_eq_some_iff.mp hheld
      have hrest := hq.2 S session x (Option.bind_eq_some_iff.mpr ⟨v, hv, hx⟩)
      unfold Server.stageOf at hs
      rw [hx, Option.map_some, Option.some.injEq] at hs
      have hlisten := h.prepares S v hv session x hx (.inr hs)
      unfold Session.stage at hs
      split at hs
      · cases hs
      · rename_i result hp
        cases result with
        | none =>
            -- the coordinator has not answered yet
            unfold Session.holds at hholds
            rw [hp, hlisten] at hholds
            cases hholds
        | some r =>
            unfold Session.atRest at hrest
            rw [hp] at hrest
            cases hrest
      · cases hs
      · cases hs
  | @joined x hx ho hid _ =>
      exact ⟨v, x, hv, hx, ho, hid, h.attached S v hv session x m hx ho hid⟩

end System

/-- **No ghost members**: in every run whose joins end with an open channel
and a mirrored space, and in which no removal throws, every member at rest
belongs to a session with an open, registered channel. -/
theorem no_ghosts {past : List System} {s : System}
    {tr : List (Out Publisher)}
    (h : machine.Run System.staysAttended past s tr) (hq : s.Quiet) :
    s.NoGhosts := by
  have hpoint := System.Run.point h
  have hI := (coordWF_reachable hpoint.reachable).member
  have hattends : ∀ S v session uuid m, s.servers.get? S = some v →
      v.held session = some (uuid, m) → m ∈ s.coordinator.members.keys →
      s.Attends S session m := by
    intro S v session uuid m hv hheld hin
    have htends := (hpoint.tended.members S v session uuid m hv hheld
      hin).resolve_right List.not_mem_nil
    exact System.attends_of_tends hpoint hq hv hheld htends
  constructor
  · intro m hin
    obtain ⟨S, session, uuid, hholds⟩ := hpoint.owned m hin
    obtain ⟨v, hv, hheld⟩ := Option.bind_eq_some_iff.mp hholds
    exact ⟨S, session, hattends S v session uuid m hv hheld hin⟩
  · intro S v session uuid m hv hheld hin
    refine hattends S v session uuid m hv hheld ?_
    -- whom a server mirrors and a session holds the coordinator has
    have hmem := (hpoint.mirrors S v hv).present session uuid m hheld
      (Option.isSome_iff_ne_none.mp (JsMap.mem_keys.mp hin))
    exact ((hI.mem uuid m).mp hmem).1

/-- Ann's channel closes while she waits for `prepareMember`; her producer
is allocated. -/
def annGivesUp : List SystemAction :=
  twoMembers.take 8 ++
    [.close 1 0, .coordinator (.resume 0), .resume 1 0,
     .coordinator (.transportAck 0 "options"), .coordinator (.resume 0)]

/-- Everything is at rest, every channel is closed, and the coordinator
keeps her. -/
theorem ghost_kept : ∃ past s tr, machine.Run anyStep past s tr ∧
    s.Quiet ∧ ¬ s.NoGhosts := by
  obtain ⟨past, s, tr, hr, hp⟩ := Machine.Run.exists_of_exec (M := machine)
    (G := anyStep) (l := annGivesUp) (p := fun r => decide
      (r.2.1.Quiet ∧ 0 ∈ r.2.1.coordinator.members.keys ∧
        ∀ e ∈ r.2.1.servers.entries, ∀ f ∈ e.2.sessions.entries,
          f.2.isOpen = false)) rfl (by decide +kernel)
  obtain ⟨hq, hin, hclosed⟩ := of_decide_eq_true hp
  refine ⟨past, s, tr, hr, hq, fun h => ?_⟩
  obtain ⟨S, session, v, x, hv, hx, ho, -⟩ := h.coordinator 0 hin
  have hclosed := hclosed (S, v) (JsMap.mem_entries.mpr hv) (session, x)
    (JsMap.mem_entries.mpr hx)
  rw [ho] at hclosed
  cases hclosed

/-- Ann and Ben join, Ben leaves, and no ghost is left. -/
theorem no_ghosts_two : ∃ past s tr,
    machine.Run System.staysAttended past s tr ∧ s.Quiet ∧
      s.coordinator.members.keys = [0] ∧ s.NoGhosts := by
  obtain ⟨past, s, tr, hr, hp⟩ := Machine.Run.exists_of_exec (M := machine)
    (G := System.staysAttended)
    (l := twoMembers ++
      [.coordinator (.transportAck 3 "options"), .close 1 1])
    (p := fun r => decide (r.2.1.Quiet ∧
      r.2.1.coordinator.members.keys = [0])) rfl (by decide +kernel)
  obtain ⟨hq, hkeys⟩ := of_decide_eq_true hp
  exact ⟨past, s, tr, hr, hq, hkeys, no_ghosts hr hq⟩

end Twolk.Signaling
