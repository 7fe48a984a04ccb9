/-
  Twolk.Signaling.Presence
  ────────────────────────
  **A SESSION'S MEMBER IS THERE.**

  From the ack of `prepareMember` until the close handler has let go of it,
  a session counts on its member: the coordinator has the member, and the
  stored mirror of the space has it.  Only the server of the session asks
  the coordinator to remove the member, after the session was closed.

  Main results:
    * `Point.present` — whoever a session counts on is a member of the
      coordinator, and in the stored mirror of the space,
    * `Point.current` — while no mirror is removed of which channels are
      registered, every registered channel is the channel of its space's
      stored mirror,
    * `Point.attached` — an open session that has joined is registered.
-/
import Twolk.Signaling.Integrity
import Twolk.Signaling.ClientView

namespace Twolk.Signaling

open Twolk.Lib Coordinator

namespace Server

/-! ## §1. Whom a session counts on. -/

/-- Where a session stands. -/
def stageOf (v : Server) (session : SessionId) : Option Stage :=
  (v.sessions.get? session).map Session.stage

/-- The session was given `m`, and joins as `m` or is registered for it. -/
structure Expects (v : Server) (session : SessionId) (uuid : Uuid)
    (m : MemberId) : Prop where
  held : v.held session = some (uuid, m)
  given : v.stageOf session = some .preparingMember ∨
    v.memberIdToChannel.get? m = some session

variable {v v' : Server}

theorem Keeps.stageOf (hk : Keeps v v') (session : SessionId) :
    v'.stageOf session = v.stageOf session := by
  unfold Server.stageOf
  rcases hk.sessions session with ⟨hn, hn'⟩ | ⟨x, x', hx, hx', hxx⟩
  · rw [hn, hn']
  · rw [hx, hx', Option.map_some, Option.map_some, hxx.stage]

/-- What a session expects, it expected before. -/
theorem Expects.of_keeps (hk : Keeps v v') {session : SessionId}
    {uuid : Uuid} {m : MemberId}
    (held : v'.held session = v.held session)
    (h : v'.Expects session uuid m) : v.Expects session uuid m where
  held := by
    rw [← held]
    exact h.held
  given := by
    rw [← hk.stageOf, ← hk.channels]
    exact h.given

/-- One session has changed, and nobody is registered anew. -/
theorem Expects.of_puts {u : Server} {session session' : SessionId}
    {x' : Session} {uuid : Uuid} {m : MemberId} (hp : Puts u session x' v')
    (hu : u.sessions = v.sessions)
    (hreg : u.memberIdToChannel.get? m = some session' →
      v.memberIdToChannel.get? m = some session')
    (held : v'.held session' = v.held session')
    (hs : session' = session → x'.stage = .preparingMember →
      v.held session' = some (uuid, m) →
      v.stageOf session' = some .preparingMember)
    (h : v'.Expects session' uuid m) : v.Expects session' uuid m := by
  have hself := hp.self
  have hothers := hp.others
  have hheld : v.held session' = some (uuid, m) := by
    rw [← held]
    exact h.held
  have hgiven := h.given
  obtain ⟨table, rfl⟩ := hp.rest
  refine ⟨hheld, hgiven.imp (fun hstage => ?_) hreg⟩
  unfold stageOf at hstage
  by_cases heq : session' = session
  · rw [heq, hself, Option.map_some, Option.some.injEq] at hstage
    exact hs heq hstage hheld
  · rw [hothers session' heq, hu] at hstage
    exact hstage

/-- Nobody holds an id in the first `await`. -/
theorem held_of_preparingSpace (hprep : Prepares v) {session : SessionId}
    {x : Session} (hx : v.sessions.get? session = some x)
    {result : Option (Except String Unit)}
    (hp : x.phase = .preparingSpace result) : v.held session = none := by
  have hlisten : x.listening = none := by
    apply hprep session x hx
    exact .inl (by simp [Session.stage, hp])
  unfold held Session.holds
  rw [hx, Option.bind_some, hp, hlisten]
  rfl

/-- Past the second `await` the session holds the id it was given. -/
theorem held_of_prepared {session : SessionId} {x : Session}
    {memberId : MemberId} (hx : v.sessions.get? session = some x)
    (hp : x.phase = .preparingMember (some (.ok memberId))) :
    v.held session = some (x.auth.spaceUuid, memberId) := by
  unfold held Session.holds
  rw [hx, Option.bind_some, hp]
  rfl

/-- What it expects after it went on, it expected before. -/
theorem Expects.of_resume (hprep : Prepares v) {serverId : ServerId}
    {session session' : SessionId} {x : Session}
    {p : Server × Option Request} {uuid : Uuid} {m : MemberId}
    (hx : v.sessions.get? session = some x)
    (hres : v.resume serverId session x = some p)
    (h : p.1.Expects session' uuid m) : v.Expects session' uuid m := by
  have hheld := resume_held hx hres session'
  have hnobody : ∀ {result : Option (Except String Unit)},
      x.phase = .preparingSpace result → session' = session →
      v.held session' = some (uuid, m) →
      v.stageOf session' = some .preparingMember := by
    rintro result hp rfl hm
    rw [held_of_preparingSpace hprep hx hp] at hm
    cases hm
  cases resumes_of_resume hx hres with
  | rejected _ hputs =>
      exact h.of_puts hputs rfl id hheld fun _ hs => nomatch hs
  | spacePrepared hp _ hputs =>
      exact h.of_puts hputs rfl id hheld fun heq _ => hnobody hp heq
  | spaceGone hp _ hputs =>
      exact h.of_puts hputs rfl id hheld fun heq _ => hnobody hp heq
  | unmirrored _ _ hputs =>
      exact h.of_puts hputs rfl id hheld fun _ hs => nomatch hs
  | @joined w memberId space hp _ hputs =>
      have hself := hputs.self
      have hothers := hputs.others
      obtain ⟨table, rfl⟩ := hputs.rest
      refine ⟨hheld ▸ h.held, ?_⟩
      by_cases heq : session' = session
      · -- it was joining before
        left
        unfold stageOf
        rw [heq, hx, Option.map_some]
        simp [Session.stage, hp]
      · refine h.given.imp (fun hstage => ?_) fun hm => ?_
        · unfold stageOf at hstage ⊢
          rwa [hothers session' heq] at hstage
        · have hm : (v.memberIdToChannel.set memberId session).get? m
              = some session' := hm
          rw [JsMap.get?_set] at hm
          split at hm
          · cases hm
            exact absurd rfl heq
          · exact hm

/-- A server function gives a session nobody to count on. -/
theorem Expects.of_call (hchannels : v.Channels) (hprep : Prepares v)
    (hfresh : ∀ session x, v.sessions.get? session = some x →
      session < v.sessionIdGen) {serverId : ServerId} {a : SystemAction}
    {p : Server × Option Request} (hc : System.ServerCall serverId v a p)
    {session : SessionId} {uuid : Uuid} {m : MemberId}
    (h : p.1.Expects session uuid m) : v.Expects session uuid m := by
  have hheld := call_held hchannels hfresh hc session
  cases hc with
  | connect auth =>
      obtain ⟨result, table, heq, hget, -⟩ := v.start_eq serverId auth
      rw [heq] at h hheld
      refine ⟨hheld ▸ h.held, h.given.imp_left fun hstage => ?_⟩
      have hstage : (table.get? session).map Session.stage
          = some .preparingMember := hstage
      rw [hget] at hstage
      split at hstage
      · cases hstage
      · exact hstage
  | resume hx hres => exact h.of_resume hprep hx hres
  | @close session' x hx _ =>
      have hstage : session = session' → x.stage = .preparingMember →
          v.held session = some (uuid, m) →
          v.stageOf session = some .preparingMember := by
        rintro rfl hs -
        unfold stageOf
        rw [hx, Option.map_some, hs]
      cases hm : x.memberId with
      | none =>
          exact h.of_puts (close_eq_none serverId hx hm).1 rfl id hheld hstage
      | some memberId =>
          exact h.of_puts (u := { v with
            memberIdToChannel := v.memberIdToChannel.delete memberId })
            (close_eq_some serverId hx hm).1 rfl JsMap.get?_of_get?_delete
            hheld hstage
  | updateMemberState newState cId _ _ _ =>
      exact h.of_keeps (updateMemberState_keeps hchannels.registered _ _
        newState cId) hheld
  | forward => exact h

/-! ## §2. The coordinator and the mirror have them. -/

/-- Whom the sessions of a server count on. -/
structure Present (c : Coord Publisher) (v : Server) : Prop where
  /-- The coordinator has them. -/
  expected : ∀ session uuid m, v.Expects session uuid m →
    m ∈ c.membersOf uuid
  /-- A stored mirror has the members that its sessions hold. -/
  mirrored : ∀ session uuid m ref, v.held session = some (uuid, m) →
    m ∈ c.membersOf uuid → v.spaces.get? uuid = some ref →
    m ∈ v.membersOf ref

variable {c c' : Coord Publisher}

/-- Nothing that the sessions count on has changed. -/
theorem Present.frame (h : Present c v) (hf : MirrorFrame v v')
    (held : ∀ session, v'.held session = v.held session)
    (expects : ∀ session uuid m, v'.Expects session uuid m →
      v.Expects session uuid m) : Present c v' where
  expected session uuid m he := h.expected session uuid m
    (expects session uuid m he)
  mirrored session uuid m ref hm hin href := by
    rw [held] at hm
    rw [hf.spaces] at href
    rw [hf.membersOf]
    exact h.mirrored session uuid m ref hm hin href

/-- Whatever a client or a session does at a server. -/
theorem Present.call (h : Present c v) (hchannels : v.Channels)
    (hprep : Prepares v)
    (hfresh : ∀ session x, v.sessions.get? session = some x →
      session < v.sessionIdGen) {serverId : ServerId} {a : SystemAction}
    {p : Server × Option Request}
    (hc : System.ServerCall serverId v a p) : Present c p.1 :=
  h.frame (call_mirrorFrame hc) (call_held hchannels hfresh hc)
    fun _ _ _ he => he.of_call hchannels hprep hfresh hc

/-- A snapshot has every member of its space. -/
theorem Present.relays (h : Present c v) (hw : Mirrored v)
    (hI : MemberWF c) (hreg : Registered v)
    (hr : System.Relays c v v') : Present c v' := by
  have hheld := relays_held hreg hr
  have hexpects : ∀ session uuid m, v'.Expects session uuid m →
      v.Expects session uuid m := fun session _ _ he =>
    -- by what is relayed: only a snapshot and a removal change mirrors
    he.of_keeps (relays_keeps hreg hr) (hheld session)
  cases hr with
  | heard heard => exact h.frame (hears_mirrorFrame heard v) hheld hexpects
  | @acked _ _ _ e session he heard =>
      have hemit : MirrorFrame v (v.emit session e) := .of_eq rfl rfl rfl rfl
      exact h.frame (hemit.trans (hears_mirrorFrame heard _)) hheld hexpects
  | rejected session error =>
      exact h.frame (.of_eq rfl rfl rfl rfl) hheld hexpects
  | @spacePrepared session x space caps hx hp hs =>
      rw [onSpacePrepared_eq] at hheld hexpects ⊢
      by_cases hhas : v.spaces.has x.auth.spaceUuid = true
      · rw [if_pos hhas] at hheld hexpects ⊢
        exact h.frame (.of_eq rfl rfl rfl rfl) hheld hexpects
      · rw [if_neg hhas] at hheld hexpects ⊢
        obtain ⟨-, hspaces, -, hmem, -⟩ := hw.snapshot x.auth.spaceUuid
          ⟨x.auth.spaceUuid, space.data,
            SpaceService.clientSideMembers c space⟩ caps
        -- the snapshot is mirrored whole
        dsimp only at hspaces hmem
        refine ⟨fun s uuid m he => h.expected s uuid m (hexpects s uuid m he),
          fun session' uuid m ref hm hin href => ?_⟩
        rw [hheld] at hm
        refine (hmem ref m).mpr ?_
        have href : (v.spaces.set x.auth.spaceUuid v.spaceRefGen).get? uuid
            = some ref := by
          rw [← hspaces]
          exact href
        -- in the new space, or in one that was there before
        rw [JsMap.get?_set] at href
        by_cases heq : uuid = x.auth.spaceUuid
        · rw [if_pos heq] at href
          cases href
          rw [heq] at hin
          exact .inr ⟨(mem_clientSideMembers hI hs).mpr hin, rfl⟩
        · rw [if_neg heq] at href
          exact .inl (h.mirrored session' uuid m ref hm hin href)
  -- a space that is removed mirrors nobody
  | spaceDeleted uuid =>
      refine ⟨fun s uuid m he => h.expected s uuid m (hexpects s uuid m he),
        fun session uuid' m ref hm hin href => ?_⟩
      exact h.mirrored session uuid' m ref hm hin
        (JsMap.get?_of_get?_delete href)

/-- The coordinator has the same members, but for one that nobody here
counts on. -/
theorem Present.remove (h : Present c v) {memberId : MemberId}
    (hmem : ∀ uuid m, m ∈ c'.membersOf uuid ↔
      m ∈ c.membersOf uuid ∧ m ≠ memberId)
    (hn : ∀ session uuid, ¬ v.Expects session uuid memberId) :
    Present c' v where
  expected session uuid m he := by
    refine (hmem uuid m).mpr ⟨h.expected session uuid m he, ?_⟩
    rintro rfl
    exact hn session uuid he
  mirrored session uuid m ref hm hin href :=
    h.mirrored session uuid m ref hm ((hmem uuid m).mp hin).1 href

/-- The server removes a member that the coordinator no longer has. -/
theorem Present.memberDeleted (h : Present c v) (hreg : Registered v)
    (serverId : ServerId) {memberId : MemberId}
    (hn : ∀ uuid, memberId ∉ c.membersOf uuid) :
    Present c (v.onMemberDeleted serverId memberId).1 := by
  have hheld := onMemberDeleted_held hreg serverId memberId
  have hkeeps := onMemberDeleted_keeps hreg serverId memberId
  refine ⟨fun session uuid m he => h.expected session uuid m
    (he.of_keeps hkeeps (hheld session)),
    fun session uuid m ref hm hin href => ?_⟩
  rw [hheld] at hm
  rw [System.onMemberDeleted_spaces] at href
  have hold := h.mirrored session uuid m ref hm hin href
  cases hget : v.members.get? memberId with
  | none =>
      unfold onMemberDeleted
      rw [hget]
      exact hold
  | some ref' =>
      rw [onMemberDeleted_eq serverId hget,
        (broadcast_mirrorFrame _ _ _).membersOf,
        membersOf_removeMember hget]
      refine ⟨hold, ?_⟩
      rintro ⟨rfl, -⟩
      exact hn uuid hin

/-- A session was given the new member `id`. -/
theorem Present.added (h : Present c v) {id : MemberId} {uuid : Uuid}
    (hmem : ∀ uuid' m, m ∈ c'.membersOf uuid' ↔ m ∈ c.membersOf uuid' ∨
      m = id ∧ uuid' = uuid)
    (hother : ∀ session uuid' m, v.held session = some (uuid', m) →
      m ≠ id) : Present c' v where
  expected session uuid' m he :=
    (hmem uuid' m).mpr (.inl (h.expected session uuid' m he))
  mirrored session uuid' m ref hm hin href := by
    refine h.mirrored session uuid' m ref hm ?_ href
    exact ((hmem uuid' m).mp hin).resolve_right fun hnew =>
      hother session uuid' m hm hnew.1

/-- The new member is in the stored mirror, if one is stored. -/
theorem Present.memberPrepared (h : Present c' v) (hw : Mirrored v)
    (hreg : Registered v) (hprep : Prepares v) {id : MemberId}
    (hnew : v.members.get? id = none) {session : SessionId} {x : Session}
    (hx : v.sessions.get? session = some x)
    (hp : x.phase = .preparingMember none)
    (hin : id ∈ c'.membersOf x.auth.spaceUuid) (data : MemberData)
    (state : MemberState) :
    Present c' (v.onMemberPrepared session x.auth.spaceUuid data state
      id) := by
  have hstage : x.stage = .preparingMember := by simp [Session.stage, hp]
  have hheld := fun session' =>
    (onMemberPrepared_held hreg hprep hx hp data state id session').2
  have hkeeps := onMemberPrepared_keeps hreg x.auth.spaceUuid data state id
    hx hstage
  -- in the space of the session, the member is mirrored in addition
  have hmirror : ∀ ref m, v.spaces.get? x.auth.spaceUuid = some ref →
      m ∈ v.membersOf ref ∨ m = id →
      m ∈ (v.onMemberPrepared session x.auth.spaceUuid data state
        id).membersOf ref := by
    intro ref m href hm
    rw [onMemberPrepared_eq hnew, href]
    refine ((broadcast_mirrorFrame _ _ _).membersOf ref m).mpr ?_
    rw [membersOf_addMember v id data state (by rw [hw.spaces _ _ href]; simp)]
    exact hm.imp_right fun heq => ⟨heq, rfl⟩
  -- the mirrors of the other spaces are left alone
  have hothers : ∀ ref m, v.uuidOf ref ≠ some x.auth.spaceUuid →
      m ∈ v.membersOf ref →
      m ∈ (v.onMemberPrepared session x.auth.spaceUuid data state
        id).membersOf ref := by
    intro ref m hne hm
    rw [onMemberPrepared_eq hnew]
    split
    · exact hm
    · rename_i ref' href'
      refine ((broadcast_mirrorFrame _ _ _).membersOf ref m).mpr ?_
      rw [membersOf_addMember v id data state
        (by rw [hw.spaces _ _ href']; simp)]
      exact .inl hm
  refine ⟨fun session' uuid m he => ?_,
    fun session' uuid m ref hm hin' href => ?_⟩
  -- the session expects the member, which the coordinator has added
  · by_cases heq : session' = session
    · have hm := he.held
      rw [hheld, if_pos heq] at hm
      cases hm
      exact hin
    · refine h.expected session' uuid m (he.of_keeps hkeeps ?_)
      rw [hheld, if_neg heq]
  -- it is the one the session holds, or a member from before
  · rw [System.onMemberPrepared_spaces] at href
    rw [hheld] at hm
    by_cases heq : session' = session
    · rw [if_pos heq] at hm
      cases hm
      exact hmirror ref _ href (.inr rfl)
    · rw [if_neg heq] at hm
      have hold := h.mirrored session' uuid m ref hm hin' href
      by_cases huuid : uuid = x.auth.spaceUuid
      · rw [huuid] at href
        exact hmirror ref m href (.inl hold)
      · refine hothers ref m ?_ hold
        rw [hw.spaces uuid ref href]
        exact fun h => huuid (Option.some.inj h)

end Server

/-! ## §3. Every point of a run. -/

namespace System

variable {G : Guard System SystemAction (Out Publisher)}

/-- A move keeps every session, in its stage. -/
theorem Move.keeps_session {sync : Bool} {s s' : System} {b : Request}
    {reqs later : List Request} (hpoint : Point G s later)
    (hready : Ready s sync b) (hm : Move s b s' reqs) {S : ServerId}
    {session : SessionId} {x : Session}
    (hx : s.sessionOf S session = some x) :
    ∃ x', s'.sessionOf S session = some x' ∧ x.Keeps x' := by
  obtain ⟨v, hv, hx⟩ := Option.bind_eq_some_iff.mp hx
  obtain ⟨v', hv', hcall⟩ := hm.callback_of hready hv
  have hk := Server.callback_keeps (hpoint.channels hv).registered hcall
  obtain ⟨x', hx', hxx⟩ := hk.after hx
  exact ⟨x', Option.bind_eq_some_iff.mpr ⟨v', hv', hx'⟩, hxx⟩

/-- **A server removes the member of a session that has joined.** -/
theorem Point.removing {s : System} {reqs : List Request}
    (h : Point G s reqs) : ∀ S m,
      .removeMemberRequest m (.deleteMember S m) ∈ reqs →
      ∃ session x, s.sessionOf S session = some x ∧
        x.memberId = some m := by
  -- a move publishes no removal, and a session keeps its member
  have hmove : ∀ {sync s b s' reqs reqs' later}, Point G s later →
      Ready s sync b → Move s b s' reqs' →
      (∀ S m, .removeMemberRequest m (.deleteMember S m) ∈ reqs →
        ∃ session x, s.sessionOf S session = some x ∧
          x.memberId = some m) →
      ∀ S m, .removeMemberRequest m (.deleteMember S m) ∈ reqs' ++ reqs →
        ∃ session x, s'.sessionOf S session = some x ∧
          x.memberId = some m := by
    intro sync s b s' reqs reqs' later h hready hm ih S m hin
    rcases List.mem_append.mp hin with hin | hin
    · obtain ⟨_, _, heq⟩ := hm.requests _ hin
      cases heq
    · obtain ⟨session, x, hx, hid⟩ := ih S m hin
      obtain ⟨x', hx', hk⟩ := hm.keeps_session h hready hx
      exact ⟨session, x', hx', hk.memberId.trans hid⟩
  -- by induction on the point: a removal is requested when a session closes
  induction h with
  | initial => exact fun _ _ hin => absurd hin List.not_mem_nil
  | flushed _ _ ih => exact ih
  | started => exact fun _ _ hin => absurd hin List.not_mem_nil
  | @called tr s serverId v a p h _ hv hc ih =>
      intro S m hin
      obtain ⟨v', req⟩ := p
      obtain rfl : req = some _ := Option.mem_toList.mp hin
      cases hc.requests with
      | @removeMember session x _ hx hid =>
          refine ⟨session, { x with isOpen := false }, ?_, hid⟩
          rw [sessionOf_set_self]
          generalize hp : (v', some _) = p at hc
          cases hc with
          | close hx' _ =>
              rw [hx] at hx'
              cases hx'
              exact (Server.close_eq_some serverId hx hid).1.self
  | published h hready hm _ ih =>
      exact hmove h hready hm fun S m hin => ih S m (List.mem_cons_of_mem _ hin)
  | coordinated h _ hready hm _ _ =>
      intro S m hin
      refine hmove h hready hm (fun S m hin => ?_) S m
        (List.mem_append_left [] hin)
      exact absurd hin List.not_mem_nil

/-- Nobody counts on a member that is being removed. -/
theorem Point.not_expects {s : System} {reqs : List Request}
    (h : Point G s reqs) {S₀ S : ServerId} {m : MemberId} {v : Server}
    {session₀ session : SessionId} {x₀ : Session} {uuid : Uuid}
    (hx₀ : s.sessionOf S₀ session₀ = some x₀) (hid : x₀.memberId = some m)
    (hn : ∀ v, s.servers.get? S₀ = some v →
      v.memberIdToChannel.get? m = none)
    (hv : s.servers.get? S = some v) : ¬ v.Expects session uuid m := by
  intro he
  obtain ⟨v₀, hv₀, hx₀⟩ := Option.bind_eq_some_iff.mp hx₀
  have hchannels := h.channels hv₀
  have hheld₀ : s.Holds S₀ session₀ x₀.auth.spaceUuid m := by
    unfold Holds held
    rw [hv₀]
    exact held_of_memberId hchannels hx₀ hid
  have hheld : s.Holds S session uuid m := by
    unfold Holds held
    rw [hv]
    exact he.held
  -- an id has one owner, and this one has joined and is not registered
  obtain ⟨rfl, rfl⟩ := h.owners.unique _ _ _ _ _ _ m hheld hheld₀
  rw [hv] at hv₀
  cases hv₀
  rcases he.given with hstage | hreg
  · unfold Server.stageOf at hstage
    rw [hx₀, Option.map_some, Option.some.injEq] at hstage
    have ho := hchannels.orderly session x₀ hx₀
    have hnone := ho.memberId_eq_none (by rw [hstage]; decide)
    rw [hid] at hnone
    cases hnone
  · rw [hn v hv] at hreg
    cases hreg

/-- Nobody was given the next id, and nobody mirrors it. -/
theorem Point.next_id {s : System} {reqs : List Request}
    (h : Point G s reqs) {S : ServerId} {v : Server}
    (hv : s.servers.get? S = some v) :
    (∀ session uuid m, v.held session = some (uuid, m) →
      m ≠ s.coordinator.memberIdGen) ∧
      v.members.get? s.coordinator.memberIdGen = none := by
  have hI := (coordWF_reachable h.reachable).member
  constructor
  · rintro session uuid m hm rfl
    have hspace := (h.sound hv).owner session uuid _ hm
    rw [hI.spaceOf_new] at hspace
    cases hspace
  · cases hid : v.members.get? s.coordinator.memberIdGen with
    | none => rfl
    | some ref =>
        have hin := (h.mirrored S v hv).members _ ref hid
        have hknown := (h.mirrors S v hv).known ref _ hin
        rw [hI.spaceOf_new] at hknown
        exact absurd hknown.symm (Server.uuidOf_of_mem hin)

/-- Within a move every member who is expected is present. -/
theorem Move.present {sync : Bool} {s s' : System} {b : Request}
    {reqs later : List Request} (hpoint : Point G s later)
    (hready : Ready s sync b) (hm : Move s b s' reqs)
    (hb : ∀ S m, b = .removeMemberRequest m (.deleteMember S m) →
      ∃ session x, s.sessionOf S session = some x ∧ x.memberId = some m)
    (h : ∀ S v, s.servers.get? S = some v → v.Present s.coordinator)
    (S : ServerId) (v' : Server) (hv' : s'.servers.get? S = some v') :
    v'.Present s'.coordinator := by
  have hI := (coordWF_reachable hpoint.reachable).member
  -- by what the move does to members: nothing, one less, or one more
  cases hm.transfers hready with
  | relayed hf hv =>
      obtain ⟨v, hget, hr⟩ := hv S v' hv'
      have hpresent := (h S v hget).relays (hpoint.mirrored S v hget) hI
        (hpoint.channels hget).registered hr
      refine ⟨fun session uuid m he => ?_, fun session uuid m ref hm hin => ?_⟩
      · rw [hf.membersOf]
        exact hpresent.expected session uuid m he
      · rw [hf.membersOf] at hin
        exact hpresent.mirrored session uuid m ref hm hin
  | @removed S₀ memberId member hin hh hn hf hv =>
      obtain ⟨session₀, x₀, hx₀, hid⟩ := hb S₀ memberId rfl
      -- the member is gone from its space, and from no other
      have hmem : ∀ uuid m, m ∈ s'.coordinator.membersOf uuid ↔
          m ∈ s.coordinator.membersOf uuid ∧ m ≠ memberId := by
        intro uuid m
        rw [hf.membersOf, membersOf_remove]
        refine and_congr_right fun hin' => not_congr ⟨And.left, ?_⟩
        rintro rfl
        have hspace := ((hI.mem uuid m).mp hin').2
        unfold Coord.spaceOf at hspace
        rw [hh] at hspace
        exact ⟨rfl, Option.some.inj hspace⟩
      have hpresent : ∀ v, s.servers.get? S = some v →
          v.Present s'.coordinator := fun v hget =>
        (h S v hget).remove hmem fun session uuid =>
          hpoint.not_expects hx₀ hid hn hget
      rw [hv] at hv'
      rcases JsMap.get?_modify_cases hv' with ⟨rfl, v, hget, rfl⟩ | ⟨-, hget⟩
      · exact (hpresent v hget).memberDeleted
          (hpoint.channels hget).registered S fun uuid hin =>
            ((hmem uuid memberId).mp hin).2 rfl
      · exact hpresent v' hget
  -- the next id is given out, and its server mirrors it
  | @added _ S₀ session x hx hp hk hf hv =>
      have hmem : ∀ uuid m, m ∈ s'.coordinator.membersOf uuid ↔
          m ∈ s.coordinator.membersOf uuid ∨
            m = s.coordinator.memberIdGen ∧ uuid = x.auth.spaceUuid := by
        intro uuid m
        rw [hf.membersOf, membersOf_add _ _ _ _ hk]
      have hpresent : ∀ v, s.servers.get? S = some v →
          v.Present s'.coordinator := fun v hget =>
        (h S v hget).added hmem (hpoint.next_id hget).1
      rw [hv] at hv'
      rcases JsMap.get?_modify_cases hv' with ⟨rfl, v, hget, rfl⟩ | ⟨-, hget⟩
      · refine (hpresent v hget).memberPrepared (hpoint.mirrored S v hget)
          (hpoint.channels hget).registered (hpoint.prepares S v hget)
          (hpoint.next_id hget).2 (get?_of_sessionOf hx hget) hp
          ((hmem _ _).mpr (.inr ⟨rfl, rfl⟩)) _ _
      · exact hpresent v' hget

/-- **Whom a session counts on is there**, at every point of a run. -/
theorem Point.present {s : System} {reqs : List Request}
    (h : Point G s reqs) :
    ∀ S v, s.servers.get? S = some v → v.Present s.coordinator := by
  induction h with
  | initial => exact fun _ _ hv => nomatch hv
  | flushed _ _ ih => exact ih
  | started _ _ ih =>
      refine JsMap.forall_set ih ⟨fun _ _ _ he => ?_, fun _ _ _ _ hm => ?_⟩
      · exact nomatch he.held
      · exact nomatch hm
  | called h _ hv hc ih =>
      exact JsMap.forall_set ih ((ih _ _ hv).call (h.channels hv)
        (h.prepares _ _ hv) (h.linked.fresh _ _ · · hv) hc)
  | published h hready hm _ ih =>
      refine hm.present h hready ?_ ih
      rintro S m rfl
      exact h.removing S m List.mem_cons_self
  | coordinated h _ hready hm _ ih =>
      refine hm.present h hready ?_ ih
      rintro S m rfl
      cases hready with
      | coordinator ha => cases ha

/-! ## §4. Registered channels and the stored mirror. -/

/-- Every registered channel is the channel of its space's stored mirror. -/
def Anchored (v : Server) : Prop :=
  ∀ m session x, Registers v m session x →
    ∃ ref, x.mirror = some ref ∧ v.spaces.get? x.auth.spaceUuid = some ref

/-- A registered member is in the stored mirror. -/
theorem Point.registered_mirrored {s : System} {reqs : List Request}
    (h : Point G s reqs) {S : ServerId} {v : Server}
    (hv : s.servers.get? S = some v) {m : MemberId} {session : SessionId}
    {x : Session} (hx : Registers v m session x) {ref : SpaceRef}
    (href : v.spaces.get? x.auth.spaceUuid = some ref) :
    m ∈ v.membersOf ref := by
  have hchannels := h.channels hv
  obtain ⟨y, hy, -, hid⟩ := hchannels.registered m session hx.1
  rw [hx.2] at hy
  cases hy
  have hheld := held_of_memberId hchannels hx.2 hid
  have hpresent := h.present S v hv
  have hin := hpresent.expected session x.auth.spaceUuid m
    ⟨hheld, .inr hx.1⟩
  exact hpresent.mirrored session x.auth.spaceUuid m ref hheld hin href

/-- No channel is registered for the space that is mirrored under `uuid`. -/
def Unattended (s : System) (S : ServerId) (uuid : Uuid) : Prop :=
  ∀ v ref, s.servers.get? S = some v → v.spaces.get? uuid = some ref →
    ∀ m session x, Registers v m session x → x.auth.spaceUuid ≠ uuid

/-- No channel is registered for the mirror whose unsubscribe is acked. -/
def removesUnattended : Guard System SystemAction (Out Publisher) :=
  fun _ s a => ∀ i, a = .coordinator (.resume i) →
    ∀ p, (s.coordinator.tasks[i]?).bind unsubscribes = some p →
      s.Unattended p.1 p.2

/-- A move keeps channels anchored, unless it removes a mirror of which
channels are registered. -/
theorem Move.anchored {sync : Bool} {s s' : System} {b : Request}
    {reqs later : List Request} (hpoint : Point G s later)
    (hready : Ready s sync b) (hm : Move s b s' reqs)
    (hfree : ∀ i, b = .resume i →
      ∀ p, (s.coordinator.tasks[i]?).bind unsubscribes = some p →
        s.Unattended p.1 p.2)
    (h : ∀ S v, s.servers.get? S = some v → Anchored v) (S : ServerId)
    (v' : Server) (hv' : s'.servers.get? S = some v') : Anchored v' := by
  obtain ⟨v, hv, hcall⟩ := hm.callback hready hv'
  intro m session y hy
  have hkeeps :=
    Server.callback_keeps (hpoint.channels hv).registered hcall
  obtain ⟨x, hx, hauth, hmirror⟩ := hy.of_keeps hkeeps
  obtain ⟨ref, hxref, href⟩ := h S v hv m session x hx
  refine ⟨ref, hmirror.trans hxref, ?_⟩
  rw [hauth]
  cases hm.storedChange hv hv' with
  | same heq =>
      rw [heq]
      exact href
  | stored => exact onSpacePrepared_spaces v _ _ _ _ href
  | @removed i uuid hi =>
      show (v.spaces.delete uuid).get? _ = _
      rw [JsMap.get?_delete, if_neg]
      · exact href
      · -- it is registered for the mirror that would be removed
        rintro rfl
        have hfree := hfree i rfl (S, x.auth.spaceUuid) (by rw [hi]; rfl)
        exact hfree v ref hv href m session x hx rfl

/-- At every point of a guarded run the mirrors are anchored. -/
theorem Point.anchored {s : System} {reqs : List Request}
    (h : Point removesUnattended s reqs) :
    ∀ S v, s.servers.get? S = some v → Anchored v := by
  induction h with
  | initial => exact fun _ _ hv => nomatch hv
  | flushed _ _ ih => exact ih
  | started _ _ ih =>
      exact JsMap.forall_set ih fun _ _ _ hx => nomatch hx.1
  | @called tr s serverId v a p h _ hv hc ih =>
      refine JsMap.forall_set ih fun m session y hy => ?_
      rw [(Server.call_mirrorFrame hc).spaces]
      rcases hc.registers (h.channels hv) (h.linked.fresh _ _ · · hv) hy
        with ⟨x, hx, hauth, hmirror⟩ | ⟨ref, href, hmirror, -⟩
      · rw [hauth, hmirror]
        exact ih serverId v hv m session x hx
      · exact ⟨ref, hmirror, href⟩
  | published h hready hm _ ih =>
      refine hm.anchored h hready (fun i hb => ?_) ih
      subst hb
      cases hready
  | coordinated h hg hready hm _ ih =>
      exact hm.anchored h hready (fun i hb => hg i (congrArg _ hb)) ih

/-- A mirror without members has no registered channel. -/
theorem Point.unattended {s : System} {reqs : List Request}
    (h : Point G s reqs) {S : ServerId} {uuid : Uuid}
    (hempty : s.mirroredMembers S uuid = []) : s.Unattended S uuid := by
  rintro v ref hv href m session x hx rfl
  unfold mirroredMembers at hempty
  rw [hv, Option.bind_some, href] at hempty
  have hempty : v.membersOf ref = [] := hempty
  have hin := h.registered_mirrored hv hx href
  rw [hempty] at hin
  exact List.not_mem_nil hin

/-- Where only mirrors without members are removed, no registered channel
loses its mirror. -/
theorem Point.of_removesDeserted {s : System} {reqs : List Request}
    (h : Point removesDeserted s reqs) :
    Point removesUnattended s reqs := by
  have hguard : ∀ {tr s a}, Point removesDeserted s [] →
      removesDeserted tr s a → removesUnattended tr s a := by
    rintro tr s a h hg i rfl p hp
    unfold removesDeserted at hg
    dsimp only at hg
    rw [hp] at hg
    exact h.unattended hg
  induction h with
  | initial => exact .initial
  | flushed out _ ih => exact ih.flushed out
  | started _ hn ih => exact ih.started hn
  | called h hg hv hc ih => exact ih.called (hguard h hg) hv hc
  | published _ hready hm ha ih => exact ih.published hready hm ha
  | coordinated h hg hready hm ha ih =>
      exact ih.coordinated (hguard h hg) hready hm ha

/-- **Registered channels stay with the stored mirror**, while no mirror is
removed of which channels are registered. -/
theorem Point.current {s : System} {reqs : List Request}
    (h : Point removesUnattended s reqs) {S : ServerId} {v : Server}
    (hv : s.servers.get? S = some v) {m : MemberId} {session : SessionId}
    {x : Session} (hx : Registers v m session x) :
    ∃ ref, v.Current m session x ref := by
  obtain ⟨ref, hmirror, href⟩ := h.anchored S v hv m session x hx
  refine ⟨ref, hx.1, hx.2, hmirror, href, ?_⟩
  exact h.listed S v hv m ref ((h.mirrored S v hv).stored href)
    (h.registered_mirrored hv hx href)

/-! ## §5. Open sessions. -/

/-- An open session that has joined is registered. -/
def Attached (v : Server) : Prop :=
  ∀ session x m, v.sessions.get? session = some x → x.isOpen = true →
    x.memberId = some m → v.memberIdToChannel.get? m = some session

/-- The sessions of one server hold different ids. -/
theorem Point.held_inj {s : System} {reqs : List Request}
    (h : Point G s reqs) {S : ServerId} {v : Server}
    (hv : s.servers.get? S = some v) {session session' : SessionId}
    {uuid uuid' : Uuid} {m : MemberId}
    (hm : v.held session = some (uuid, m))
    (hm' : v.held session' = some (uuid', m)) : session = session' := by
  have hholds : ∀ {session : SessionId} {uuid : Uuid},
      v.held session = some (uuid, m) → s.Holds S session uuid m := by
    intro session uuid hm
    unfold Holds held
    rwa [hv]
  exact (h.owners.unique _ _ _ _ _ _ m (hholds hm) (hholds hm')).2

theorem Attached.keeps {v v' : Server} (h : Attached v)
    (hk : v.Keeps v') : Attached v' := by
  intro session x' m hx' ho hid
  obtain ⟨x, hx, hxy⟩ := hk.before hx'
  rw [hk.channels]
  apply h session x m hx
  · rw [← ho, hxy.rest]
  · rw [← hid, hxy.memberId]

/-- A change of a session that has no member keeps the others attached. -/
theorem Attached.puts {v v' : Server} (h : Attached v)
    {session : SessionId} {x' : Session} (hp : Server.Puts v session x' v')
    (hid : x'.isOpen = true → x'.memberId = none) : Attached v' := by
  have hself := hp.self
  have hothers := hp.others
  obtain ⟨table, rfl⟩ := hp.rest
  intro session' y m hy ho hm
  by_cases heq : session' = session
  · rw [heq, hself] at hy
    cases hy
    rw [hid ho] at hm
    cases hm
  · rw [hothers session' heq] at hy
    exact h session' y m hy ho hm

/-- **An open session that has joined is registered.** -/
theorem Point.attached {s : System} {reqs : List Request}
    (h : Point G s reqs) :
    ∀ S v, s.servers.get? S = some v → Attached v := by
  -- at first nobody is there, and only a join attaches a member
  refine h.server Attached (fun _ _ _ hx => (nomatch hx)) ?_ ?_
  · intro tr s S v a p hpoint _ hv hI hc
    have hchannels := hpoint.channels hv
    -- who has not joined has no member
    have hnobody : ∀ {session x}, v.sessions.get? session = some x →
        x.stage ≠ .joined → x.memberId = none := fun hx hs =>
      (hchannels.orderly _ _ hx).memberId_eq_none hs
    cases hc with
    | connect auth =>
        intro session x m hx ho hm
        rw [Server.start_memberIdToChannel]
        rcases Server.start_sessions hx with hx | ⟨result, rfl⟩
        · exact hI session x m hx ho hm
        · cases hm
    | @resume session x _ hx hres =>
        have hspace : ∀ {r}, x.phase = .preparingSpace r →
            x.memberId = none := fun hp =>
          hnobody hx (by simp [Session.stage, hp])
        have hmember : ∀ {r}, x.phase = .preparingMember r →
            x.memberId = none := fun hp =>
          hnobody hx (by simp [Session.stage, hp])
        cases Server.resumes_of_resume hx hres with
        | rejected hp hputs =>
            exact hI.puts hputs fun _ => hp.elim hspace hmember
        | spacePrepared hp _ hputs => exact hI.puts hputs fun _ => hspace hp
        | spaceGone hp _ hputs => exact hI.puts hputs fun _ => hspace hp
        | unmirrored hp _ hputs => exact hI.puts hputs fun _ => hmember hp
        -- the channel is registered in the same stretch
        | @joined w memberId space hp _ hputs =>
            have hself := hputs.self
            have hothers := hputs.others
            obtain ⟨table, rfl⟩ := hputs.rest
            have hheld := Server.held_of_prepared hx hp
            intro session' y m hy ho hm
            show (v.memberIdToChannel.set memberId session).get? m = _
            by_cases heq : session' = session
            · rw [heq, hself] at hy
              cases hy
              cases hm
              rw [heq, JsMap.get?_set_self]
            -- the members of two sessions differ, so the other channel stays
            · rw [hothers session' heq] at hy
              have hm' := held_of_memberId hchannels hy hm
              rw [JsMap.get?_set_of_ne _ _ fun h => ?_]
              · exact hI session' y m hy ho hm
              · subst h
                exact heq (hpoint.held_inj hv hm' hheld)
    | @close session x hx _ =>
        cases hid : x.memberId with
        | none =>
            exact hI.puts (Server.close_eq_none S hx hid).1 fun _ => hid
        | some memberId =>
            have hputs := (Server.close_eq_some S hx hid).1
            have hself := hputs.self
            have hothers := hputs.others
            obtain ⟨table, heq⟩ := hputs.rest
            rw [heq] at hself hothers ⊢
            intro session' y m hy ho hm
            show (v.memberIdToChannel.delete memberId).get? m = _
            by_cases hsession : session' = session
            · rw [hsession, hself] at hy
              cases hy
              cases ho
            -- likewise when a channel is unregistered
            · rw [hothers session' hsession] at hy
              have hm' := held_of_memberId hchannels hy hm
              have hheld := held_of_memberId hchannels hx hid
              rw [JsMap.get?_delete, if_neg fun h => ?_]
              · exact hI session' y m hy ho hm
              · subst h
                exact hsession (hpoint.held_inj hv hm' hheld)
    | updateMemberState newState cId _ _ _ =>
        exact hI.keeps (Server.updateMemberState_keeps hchannels.registered
          _ _ newState cId)
    | forward => exact hI
  -- a callback moves no session on
  · intro s reqs S v v' hpoint hv hI hc
    exact hI.keeps
      (Server.callback_keeps (hpoint.channels hv).registered hc)

/-! ## §6. Snapshots. -/

/-- The snapshot a channel carried was sent to its own member, who is in
it. -/
def Introduced (v : Server) : Prop :=
  ∀ session x id caps clientSideSpace, v.sessions.get? session = some x →
    .spaceInit id caps clientSideSpace ∈ x.emitted →
    x.memberId = some id ∧ ∃ member ∈ clientSideSpace.members,
      member.id = id

theorem Introduced.keeps {v v' : Server} (h : Introduced v)
    (hk : v.Keeps v') : Introduced v' := by
  intro session x' id caps clientSideSpace hx' hin
  obtain ⟨x, hx, hxy⟩ := hk.before hx'
  obtain ⟨l, hl, hkind⟩ := hxy.emitted
  rw [hl] at hin
  rw [hxy.memberId]
  rcases List.mem_append.mp hin with hin | hin
  · exact h session x id caps clientSideSpace hx hin
  · -- what comes in addition is no snapshot
    rcases hkind _ hin with he | ⟨he, -⟩
    · cases he
    · cases he

/-- One session has changed, and heard nothing but the outcome. -/
theorem Introduced.puts {v u v' : Server} (h : Introduced v)
    {session : SessionId} {x x' : Session} (hp : Server.Puts u session x' v')
    (hu : u.sessions = v.sessions) (hx : v.sessions.get? session = some x)
    (hid : x'.memberId = x.memberId)
    (he : ∀ e ∈ x'.emitted, e ∈ x.emitted ∨ e.kind = .outcome) :
    Introduced v' := by
  intro session' y id caps clientSideSpace hy hin
  by_cases heq : session' = session
  · rw [heq, hp.self] at hy
    cases hy
    rw [hid]
    rcases he _ hin with hin | hk
    · exact h session x id caps clientSideSpace hx hin
    · cases hk
  · rw [hp.others session' heq, hu] at hy
    exact h session' y id caps clientSideSpace hy hin

/-- **The member who is sent a snapshot is in it.** -/
theorem Point.introduced {s : System} {reqs : List Request}
    (h : Point G s reqs) :
    ∀ S v, s.servers.get? S = some v → Introduced v := by
  -- at first nothing is emitted, and only a join emits a snapshot
  refine h.server Introduced (fun _ _ _ _ _ hx => (nomatch hx)) ?_ ?_
  · intro tr s S v a p hpoint _ hv hI hc
    have hchannels := hpoint.channels hv
    -- an outcome is no snapshot
    have hheard : ∀ {x : Session} {e : ServerToClientEvent},
        e.kind = .outcome → ∀ e' ∈ (x.hear [e]).emitted,
          e' ∈ x.emitted ∨ e'.kind = .outcome := by
      intro x e he e' hin
      rcases List.mem_append.mp hin with hin | hin
      · exact .inl hin
      · rw [List.mem_singleton.mp hin]
        exact .inr he
    cases hc with
    | connect auth =>
        intro session x id caps clientSideSpace hx hin
        rcases Server.start_sessions hx with hx | ⟨result, rfl⟩
        · exact hI session x id caps clientSideSpace hx hin
        · exact absurd hin List.not_mem_nil
    | @resume session x _ hx hres =>
        cases Server.resumes_of_resume hx hres with
        | rejected _ hputs =>
            exact hI.puts hputs rfl hx rfl (hheard rfl)
        | spacePrepared _ _ hputs =>
            exact hI.puts hputs rfl hx rfl (hheard rfl)
        | spaceGone _ _ hputs =>
            exact hI.puts hputs rfl hx rfl (hheard rfl)
        | unmirrored _ _ hputs =>
            exact hI.puts hputs rfl hx rfl (hheard rfl)
        | @joined w memberId space hp hs hputs =>
            have hself := hputs.self
            have hothers := hputs.others
            obtain ⟨table, rfl⟩ := hputs.rest
            -- the snapshot shows the mirror, which holds the member by then
            intro session' y id caps clientSideSpace hy hin
            by_cases heq : session' = session
            · rw [heq, hself] at hy
              cases hy
              rcases List.mem_append.mp hin with hin | hin
              · -- it has not been sent one before
                have hid := (hI session x id caps clientSideSpace hx hin).1
                have hnone := (hchannels.orderly session x
                  hx).memberId_eq_none (by simp [Session.stage, hp])
                rw [hid] at hnone
                cases hnone
              · cases List.mem_singleton.mp hin
                refine ⟨rfl, ?_⟩
                -- the session expects it, and so it is mirrored
                obtain ⟨ref, href, hspace⟩ := Option.bind_eq_some_iff.mp hs
                have hheld := Server.held_of_prepared hx hp
                have hpresent := hpoint.present S v hv
                have hexpects : v.Expects session x.auth.spaceUuid
                    memberId := by
                  refine ⟨hheld, .inl ?_⟩
                  unfold Server.stageOf
                  rw [hx, Option.map_some]
                  simp [Session.stage, hp]
                have hmem := hpresent.mirrored _ _ _ ref hheld
                  (hpresent.expected _ _ _ hexpects) href
                obtain ⟨space', hspace', hkey⟩ :=
                  Server.mem_membersOf.mp hmem
                rw [hspace] at hspace'
                cases hspace'
                obtain ⟨e, he, hid⟩ := List.mem_map.mp hkey
                exact ⟨_, List.mem_map_of_mem he, hid⟩
            · rw [hothers session' heq] at hy
              exact hI session' y id caps clientSideSpace hy hin
    | @close session x hx _ =>
        cases hid : x.memberId with
        | none =>
            exact hI.puts (Server.close_eq_none S hx hid).1 rfl hx rfl
              fun e he => .inl he
        | some memberId =>
            refine hI.puts (Server.close_eq_some S hx hid).1 ?_ hx rfl
              fun e he => .inl he
            rfl
    | updateMemberState newState cId _ _ _ =>
        exact hI.keeps (Server.updateMemberState_keeps hchannels.registered
          _ _ newState cId)
    | forward => exact hI
  · intro s reqs S v v' hpoint hv hI hc
    exact hI.keeps
      (Server.callback_keeps (hpoint.channels hv).registered hc)

end System

end Twolk.Signaling
