/-
  Twolk.Signaling.Scopes
  ──────────────────────
  **A CHANNEL CARRIES NOTHING OF ANOTHER SPACE.**

  A server keeps the mirrors of all its spaces in one table of members, and
  broadcasts by member id.  A mirror may be stale, its members may have left
  and another server may have removed them; but a member keeps the space it
  was added to, so whoever is notified with a member is of its space.

  The snapshot shows the members of the stored space, and transport
  parameters name the owner of the transport or of the one it consumes from,
  which the mesh allocates within one space.

  Main results:
    * `Move.scoped` — what a move makes a channel carry is of its space,
    * `events_of_own_space` — so is all that a channel ever carries.
-/
import Twolk.Signaling.Params

namespace Twolk.Signaling

open Twolk.Lib Coordinator

/-! ## §1. Whom an event is about. -/

/-- The members an event names. -/
def ServerToClientEvent.names : ServerToClientEvent → List MemberId
  | .spaceInit receivingMemberId _ clientSideSpace =>
      receivingMemberId :: clientSideSpace.members.map ClientSideMember.id
  | .transportParams memberId _ => [memberId]
  | .memberJoin member => [member.id]
  | .memberLeave memberId => [memberId]
  | .memberStateUpdate memberId _ => [memberId]
  | _ => []

/-- The space an event shows. -/
def ServerToClientEvent.shown : ServerToClientEvent → Option Uuid
  | .spaceInit _ _ clientSideSpace => some clientSideSpace.uuid
  | _ => none

/-- The event is about space `uuid` and its members. -/
structure Within (c : Coord Publisher) (uuid : Uuid)
    (event : ServerToClientEvent) : Prop where
  names : ∀ m ∈ event.names, c.spaceOf m = some uuid
  shown : ∀ uuid' ∈ event.shown, uuid' = uuid

/-- The members of `c` are still of their spaces in `c'`. -/
def KeepsSpaces (c c' : Coord Publisher) : Prop :=
  ∀ m uuid, c.spaceOf m = some uuid → c'.spaceOf m = some uuid

section Within

variable {c c' : Coord Publisher} {uuid : Uuid} {event : ServerToClientEvent}

/-- The members it names are still of their spaces. -/
theorem Within.mono (h : Within c uuid event) (hc : KeepsSpaces c c') :
    Within c' uuid event where
  names m hm := hc m uuid (h.names m hm)
  shown := h.shown

/-- An ack names no member and shows no space. -/
theorem Within.of_ack (he : event.kind = .ack) (uuid : Uuid) :
    Within c uuid event := by
  constructor
  · intro m hm
    cases event <;> cases he
    all_goals cases hm
  · intro uuid' hm
    cases event <;> cases he
    all_goals cases hm

theorem Within.connectionSuccessful :
    Within c uuid .connectionSuccessful where
  names _ hm := nomatch hm
  shown _ hm := nomatch hm

theorem Within.connectionFailed (message : String) :
    Within c uuid (.connectionFailed message) where
  names _ hm := nomatch hm
  shown _ hm := nomatch hm

/-- An event that names one member of the space stays within it. -/
theorem Within.of_one {m : MemberId} (hn : event.names = [m])
    (hs : event.shown = none) (hm : c.spaceOf m = some uuid) :
    Within c uuid event where
  names m' hin := by
    rw [hn] at hin
    rw [List.mem_singleton.mp hin, hm]
  shown uuid' hin := by
    rw [hs] at hin
    cases hin

end Within

namespace Server

/-- Every channel has carried what is about its own space. -/
def Scoped (c : Coord Publisher) (v : Server) : Prop :=
  ∀ session x, v.sessions.get? session = some x →
    ∀ event ∈ x.emitted, Within c x.auth.spaceUuid event

/-- Who is registered is of the space its channel was opened for. -/
def Placed (c : Coord Publisher) (v : Server) : Prop :=
  ∀ m session x, v.memberIdToChannel.get? m = some session →
    v.sessions.get? session = some x → c.spaceOf m = some x.auth.spaceUuid

variable {c c' : Coord Publisher} {v v' u : Server}

/-- Members are mirrored under their own space. -/
theorem Sound.placed (h : Sound c v) : Placed c v := by
  intro m session x hm hx
  obtain ⟨y, hy, -, hid⟩ := h.channels.registered m session hm
  rw [hx] at hy
  cases hy
  exact h.owner _ _ _ (System.held_of_memberId h.channels hx hid)

/-! ## §2. What a channel carries in addition. -/

/-- Scopes outlive a step of the coordinator. -/
theorem Scoped.mono (h : Scoped c v) (hc : KeepsSpaces c c') : Scoped c' v :=
  fun session x hx event he => (h session x hx event he).mono hc

theorem Scoped.of_sessions (h : Scoped c v) (heq : v'.sessions = v.sessions) :
    Scoped c v' := by
  intro session x hx
  rw [heq] at hx
  exact h session x hx

/-- Every session may have heard something, of its own space. -/
theorem Scoped.map (h : Scoped c v) {f : SessionId → Session → Session}
    (get : ∀ session, v'.sessions.get? session
      = (v.sessions.get? session).map (f session))
    (hf : ∀ session x, v.sessions.get? session = some x →
      (f session x).auth = x.auth ∧ ∀ event ∈ (f session x).emitted,
        event ∈ x.emitted ∨ Within c x.auth.spaceUuid event) :
    Scoped c v' := by
  intro session x' hx' event he
  rw [get, Option.map_eq_some_iff] at hx'
  obtain ⟨x, hx, rfl⟩ := hx'
  obtain ⟨hauth, hnew⟩ := hf session x hx
  rw [hauth]
  rcases hnew event he with he | he
  · exact h session x hx event he
  · exact he

/-- A change of one session keeps the others within their spaces. -/
theorem Scoped.puts (h : Scoped c v) (hu : u.sessions = v.sessions)
    {session : SessionId} {x x' : Session} (hp : Puts u session x' v')
    (hx : v.sessions.get? session = some x) (ha : x'.auth = x.auth)
    (he : ∀ event ∈ x'.emitted,
      event ∈ x.emitted ∨ Within c x.auth.spaceUuid event) :
    Scoped c v' := by
  intro session' y hy event hin
  by_cases heq : session' = session
  · rw [heq, hp.self] at hy
    cases hy
    rw [ha]
    rcases he event hin with hin | hin
    · exact h session x hx event hin
    · exact hin
  · rw [hp.others session' heq, hu] at hy
    exact h session' y hy event hin

theorem Scoped.modify (h : Scoped c v) (session : SessionId)
    {f : Session → Session} (hauth : ∀ x, (f x).auth = x.auth)
    (hemitted : ∀ x, (f x).emitted = x.emitted) :
    Scoped c { v with sessions := v.sessions.modify session f } := by
  intro session' x' hx' event he
  have hx' : (v.sessions.modify session f).get? session' = some x' := hx'
  rcases JsMap.get?_modify_cases hx' with ⟨-, x, hx, rfl⟩ | ⟨-, hx⟩
  · rw [hemitted] at he
    rw [hauth]
    exact h session x hx event he
  · exact h session' x' hx event he

theorem Scoped.setPhase (h : Scoped c v) (session : SessionId)
    (phase : Phase) : Scoped c (v.setPhase session phase) :=
  h.modify session (fun _ => rfl) fun _ => rfl

theorem Scoped.reject (h : Scoped c v) (session : SessionId)
    (error : String) : Scoped c (v.reject session error) := by
  refine h.modify session (fun x => ?_) fun x => ?_
  · split <;> rfl
  · split <;> rfl

theorem Scoped.emit_ack (h : Scoped c v) (session : SessionId)
    {event : ServerToClientEvent} (he : event.kind = .ack) :
    Scoped c (v.emit session event) := by
  refine h.map (v.emit_get session event) fun session' x _ => ⟨rfl, ?_⟩
  intro e hin
  refine (List.mem_append.mp hin).imp_right fun hin => ?_
  split at hin
  · rw [List.mem_singleton.mp hin]
    exact .of_ack he _
  · cases hin

/-! ## §3. Broadcasts. -/

/-- **A broadcast to members of the space the event is about.** -/
theorem Scoped.broadcast (h : Scoped c v) (hp : Placed c v)
    {ids : List MemberId} {event : ServerToClientEvent}
    (hids : ∀ m ∈ ids, ∀ uuid, c.spaceOf m = some uuid →
      Within c uuid event) : Scoped c (v.broadcast ids event) := by
  obtain ⟨sessions, heq, hget⟩ := v.broadcast_eq event ids
  rw [heq]
  refine h.map hget fun session x hx => ⟨rfl, ?_⟩
  intro e hin
  refine (List.mem_append.mp hin).imp_right fun hin => ?_
  obtain ⟨hne, rfl⟩ := List.mem_replicate.mp hin
  -- the channel has heard of it, so one of `ids` is registered for it
  have hpos : 0 < v.registrations ids session := Nat.pos_of_ne_zero hne
  obtain ⟨m, hm, hreg⟩ := List.countP_pos_iff.mp hpos
  exact hids m hm _ (hp m session x (of_decide_eq_true hreg) hx)

/-- The members mirrored under one reference are of one space. -/
theorem Sound.same_space (h : Sound c v) {r : SpaceRef} {m m' : MemberId}
    (hm : m ∈ v.membersOf r) (hm' : m' ∈ v.membersOf r) :
    c.spaceOf m' = c.spaceOf m :=
  (h.mirrors.known r m' hm').trans (h.mirrors.known r m hm).symm

/-- The update of a member goes to members of its space. -/
theorem Scoped.updateMember (h : Scoped c v) (hs : Sound c v)
    {memberId : MemberId} {update : MemberStateUpdate}
    (hu : v.updateMember memberId update = some v') : Scoped c v' := by
  obtain ⟨r, space, member, hr, hspace, hmember, rfl⟩ := updateMember_eq hu
  have hkeys : ∀ m ∈ space.members.keys, m ∈ v.membersOf r :=
    fun m hm => mem_membersOf.mpr ⟨space, hspace, hm⟩
  have hold : Scoped c { v with
      spaceHeap := v.spaceHeap.modify r fun s =>
        { s with
          members := s.members.modify memberId fun m =>
            { m with state := member.state.merge update } } } :=
    h.of_sessions rfl
  refine hold.broadcast hs.placed fun m hm uuid huuid => ?_
  refine .of_one (m := memberId) rfl rfl ?_
  have hin := hs.mirrored.members memberId r hr
  exact (hs.same_space (hkeys m hm) hin).trans huuid

/-- So does the news of a member who is deleted. -/
theorem Scoped.memberDeleted (h : Scoped c v) (hs : Sound c v)
    (serverId : ServerId) (memberId : MemberId) :
    Scoped c (v.onMemberDeleted serverId memberId).1 := by
  cases hr : v.members.get? memberId with
  | none =>
      unfold onMemberDeleted
      rw [hr]
      exact h
  | some r =>
      rw [onMemberDeleted_eq serverId hr]
      obtain ⟨hsessions, hchannels⟩ := v.removeMember_eq memberId
      have hplaced : Placed c (v.removeMember memberId) := by
        intro m session x hm hx
        rw [hchannels] at hm
        rw [hsessions] at hx
        exact hs.placed m session x hm hx
      refine (h.of_sessions hsessions).broadcast hplaced fun m hm uuid huuid =>
        ?_
      have hm := (List.mem_filter.mp hm).1
      rw [membersOf_removeMember hr] at hm
      refine .of_one (m := memberId) rfl rfl ?_
      have hin := hs.mirrored.members memberId r hr
      exact (hs.same_space hm.1 hin).trans huuid

/-- The new member, known to the coordinator in `c'`, joins the stored
space. -/
theorem Scoped.memberPrepared (h : Scoped c v) (hs : Sound c v)
    (hc : KeepsSpaces c c') (session : SessionId) {uuid : Uuid}
    (data : MemberData) (state : MemberState) {id : MemberId}
    (hid : c'.spaceOf id = some uuid) :
    Scoped c' (v.onMemberPrepared session uuid data state id) := by
  have h' := h.mono hc
  unfold onMemberPrepared
  apply Scoped.setPhase
  split
  · exact h'
  · split
    · exact h'
    · rename_i r hr
      have huuid := hs.mirrored.spaces uuid r hr
      have hplaced : Placed c' (v.addMember id r data state) :=
        fun m session x hm hx => hc _ _ (hs.placed m session x hm hx)
      have hadded : Scoped c' (v.addMember id r data state) :=
        h'.of_sessions rfl
      refine hadded.broadcast hplaced fun m hm uuid' huuid' => ?_
      obtain ⟨hm, hne⟩ := List.mem_filter.mp hm
      have hstored : v.uuidOf r ≠ none := by simp [huuid]
      rw [membersOf_addMember v id data state hstored] at hm
      -- the others were mirrored before
      have hold : m ∈ v.membersOf r :=
        hm.resolve_right fun hself => of_decide_eq_true hne hself.1
      have hknown := hs.mirrors.known r m hold
      rw [huuid] at hknown
      rw [hc m uuid hknown] at huuid'
      exact .of_one (m := id) rfl rfl (hid.trans huuid')

/-! ## §4. Updates of the coordinator. -/

/-- Transport parameters name a member of the space of the owner. -/
def ParamsLocal (c : Coord Publisher) (heard : List (Out Publisher)) : Prop :=
  ∀ uuid memberId source options,
    .spaceUpdate uuid (.transportParamsEvent memberId source options)
      ∈ heard → c.spaceOf (source.getD memberId) = c.spaceOf memberId

/-- So does whatever is relayed. -/
theorem Scoped.onSpaceUpdate (h : Scoped c v) (hs : Sound c v) (uuid : Uuid)
    {update : SpaceUpdateC}
    (hlocal : ParamsLocal c [.spaceUpdate uuid update]) :
    Scoped c (v.onSpaceUpdate uuid update) := by
  unfold Server.onSpaceUpdate
  split
  · rename_i memberId source options
    split
    · -- a broadcast to one member
      show Scoped c (v.broadcast [memberId] _)
      refine h.broadcast hs.placed fun m hm uuid' huuid => ?_
      rw [List.mem_singleton.mp hm] at huuid
      refine .of_one (m := source.getD memberId) rfl rfl ?_
      exact (hlocal uuid _ _ _ List.mem_cons_self).trans huuid
    · exact h
  · rename_i memberId
    split
    · cases hu : v.updateMember memberId ⟨none, some true⟩ with
      | none => exact h
      | some v' => exact h.updateMember hs hu
    · exact h

/-- What a server hears goes to members of its space. By induction on the
updates. -/
theorem Scoped.hears (hI : MemberWF c) :
    ∀ (heard : List (Out Publisher)) {v : Server}, Scoped c v → Sound c v →
      ParamsLocal c heard → Scoped c (heard.foldl System.hears v)
  | [], _, h, _, _ => h
  | o :: heard, v, h, hs, hlocal => by
      have hone : Sound c (System.hears v o) := hs.relays hI (.heard [o])
      refine Scoped.hears hI heard ?_ hone fun uuid m source options hin =>
        hlocal uuid m source options (List.mem_cons_of_mem o hin)
      cases o with
      | spaceUpdate uuid update =>
          refine h.onSpaceUpdate hs uuid fun uuid' m source options hin => ?_
          refine hlocal uuid' m source options ?_
          exact List.mem_cons.mpr (.inl (List.mem_singleton.mp hin))
      | _ => exact h

/-! ## §5. Server functions. -/

/-- What the snapshot shows is of its space. -/
theorem Sound.snapshot_within (h : Sound c v) {session : SessionId}
    {uuid : Uuid} {memberId : MemberId} {space : Space}
    (hheld : v.held session = some (uuid, memberId))
    (hspace : v.getSpace uuid = some space) :
    Within c uuid (.spaceInit memberId space.routerRtpCapabilities
      (getClientSideSpace space)) := by
  obtain ⟨r, hr, hheap⟩ := Option.bind_eq_some_iff.mp hspace
  have huuid := h.mirrored.spaces uuid r hr
  have heq : space.uuid = uuid := by
    unfold uuidOf at huuid
    rw [hheap] at huuid
    exact Option.some.inj huuid
  constructor
  · intro m hm
    rcases List.mem_cons.mp hm with rfl | hm
    · exact h.owner session uuid m hheld
    · -- a member of the stored space
      obtain ⟨member, hmember, rfl⟩ := List.mem_map.mp hm
      obtain ⟨e, he, rfl⟩ := List.mem_map.mp hmember
      have hkey : e.1 ∈ space.members.keys := List.mem_map_of_mem he
      have hin : e.1 ∈ v.membersOf r := mem_membersOf.mpr ⟨space, hheap, hkey⟩
      exact (h.mirrors.known r e.1 hin).trans huuid
  · intro uuid' hin
    exact (Option.some.inj hin).symm.trans heq

/-- A session that goes on is shown its own space. -/
theorem Scoped.resume (h : Scoped c v) (hs : Sound c v)
    {serverId : ServerId} {session : SessionId} {x : Session}
    {p : Server × Option Request} (hx : v.sessions.get? session = some x)
    (hres : v.resume serverId session x = some p) : Scoped c p.1 := by
  -- one event more
  have hone : ∀ {event : ServerToClientEvent},
      Within c x.auth.spaceUuid event → ∀ e ∈ x.emitted ++ [event],
        e ∈ x.emitted ∨ Within c x.auth.spaceUuid e := by
    intro event hw e hin
    refine (List.mem_append.mp hin).imp_right fun hin => ?_
    rw [List.mem_singleton.mp hin]
    exact hw
  cases resumes_of_resume hx hres with
  | rejected _ hputs =>
      exact h.puts rfl hputs hx rfl (hone (.connectionFailed ""))
  | spacePrepared _ _ hputs =>
      exact h.puts rfl hputs hx rfl (hone .connectionSuccessful)
  | spaceGone _ _ hputs =>
      exact h.puts rfl hputs hx rfl (hone .connectionSuccessful)
  | unmirrored _ _ hputs =>
      exact h.puts rfl hputs hx rfl (hone (.connectionFailed ""))
  | joined hp hspace hputs =>
      refine h.puts (by rfl) hputs hx rfl (hone ?_)
      exact hs.snapshot_within (held_of_prepared hx hp) hspace

/-- Whatever a client or a session does at a server. -/
theorem Scoped.call {serverId : ServerId} {a : SystemAction}
    {p : Server × Option Request} (h : Scoped c v) (hs : Sound c v)
    (hc : System.ServerCall serverId v a p) : Scoped c p.1 := by
  cases hc with
  | connect auth =>
      obtain ⟨result, table, heq, hget, -⟩ := v.start_eq serverId auth
      rw [heq]
      intro session x hx event he
      have hx : table.get? session = some x := hx
      rw [hget] at hx
      split at hx
      · cases hx
        cases he
      · exact h session x hx event he
  | resume hx hres => exact h.resume hs hx hres
  | @close session x hx _ =>
      have hsame : ∀ e ∈ x.emitted,
          e ∈ x.emitted ∨ Within c x.auth.spaceUuid e := fun _ => .inl
      cases hm : x.memberId with
      | none => exact h.puts rfl (close_eq_none serverId hx hm).1 hx rfl hsame
      | some memberId =>
          exact h.puts (by rfl) (close_eq_some serverId hx hm).1 hx rfl hsame
  | @updateMemberState session x memberId newState cId _ _ _ =>
      unfold updateMemberState
      refine Scoped.emit_ack ?_ session rfl
      cases hu : v.updateMember memberId newState with
      | none => exact h
      | some v' => exact h.updateMember hs hu
  | forward => exact h

end Server

/-! ## §6. Every reachable state. -/

namespace System

variable {G : Guard System SystemAction (Out Publisher)} {s s' : System}
  {b : Request} {reqs later : List Request}

/-- A move leaves the members where they are. -/
theorem Move.keepsSpaces {sync : Bool} (hI : MemberWF s.coordinator)
    (hready : Ready s sync b) (hm : Move s b s' reqs) :
    KeepsSpaces s.coordinator s'.coordinator := by
  intro m uuid hs
  cases hm.transfers hready with
  | relayed hf _ => rwa [hf.spaceOf]
  | removed _ _ _ hf _ =>
      rw [hf.spaceOf]
      exact hs
  | added _ _ _ hf _ =>
      rw [hf.spaceOf, spaceOf_add, if_neg ?_]
      · exact hs
      · rintro rfl
        rw [hI.spaceOf_new] at hs
        cases hs

/-- **What the servers hear in a stretch is local.**  A transport that
consumes from another one was allocated in its space. -/
theorem Point.paramsLocal (h : Point G s later)
    (ha : s.base.act b = some s'.coordinator) {d : Coord Publisher}
    {asked answered : List (Waiting Publisher)}
    {heard heard' : List (Out Publisher)}
    (hturn : Turn d s'.coordinator asked answered heard') (hout : d.out = [])
    (hsub : ∀ o ∈ heard, o ∈ heard') :
    Server.ParamsLocal s.coordinator heard := by
  intro uuid memberId source options hin
  have hwf := coordWF_reachable h.reachable
  have hannounced := announcement_act h.baseWF rfl ha
  cases announced_of_heard hturn hout hannounced (hsub _ hin) with
  | @params id _ T _ _ hreq hT hsource hu =>
      cases source with
      | none => rfl
      | some m =>
          obtain ⟨-, -, hsame, -⟩ := source_member hwf
            (producing_reachable h.reachable) hT hsource
          exact hsame

/-- **One move** keeps every channel within its space. -/
theorem Move.scoped {sync : Bool} (hpoint : Point G s later)
    (hready : Ready s sync b) (hm : Move s b s' reqs)
    (ha : s.base.act b = some s'.coordinator)
    (h : ∀ S v, s.servers.get? S = some v → v.Scoped s.coordinator)
    (S : ServerId) (v' : Server) (hv' : s'.servers.get? S = some v') :
    v'.Scoped s'.coordinator := by
  have hI := (coordWF_reachable hpoint.reachable).member
  have hkeeps := hm.keepsSpaces hI hready
  have hsame : s'.servers = s.servers → v'.Scoped s'.coordinator := by
    intro hv
    rw [hv] at hv'
    exact (h S v' hv').mono hkeeps
  have hmodify : ∀ {S' : ServerId} {f : Server → Server},
      s'.servers = s.servers.modify S' f →
      (∀ v, s.servers.get? S' = some v → v.Scoped s.coordinator →
        (f v).Scoped s'.coordinator) → v'.Scoped s'.coordinator := by
    intro S' f hv hf
    rw [hv] at hv'
    rcases JsMap.get?_modify_cases hv' with ⟨-, v, hget, rfl⟩ | ⟨-, hget⟩
    · exact hf v hget (h S' v hget)
    · exact (h S v' hget).mono hkeeps
  cases hm with
  | quiet _ _ hv | asked _ _ _ _ hv | forwarded _ _ hv | unsubscribing _ hv
  | abandoned _ hv | updateNacked _ _ hv => exact hsame hv
  | rejected _ _ hv =>
      exact hmodify hv fun v _ hscoped => (hscoped.reject _ _).mono hkeeps
  | removed _ _ _ hv =>
      refine hmodify hv fun v hget hscoped => Server.Scoped.mono ?_ hkeeps
      exact hscoped.memberDeleted (hpoint.sound hget) _ _
  | @subscribed _ _ _ session x space caps _ _ _ _ _ hv =>
      refine hmodify hv fun v _ hscoped => Server.Scoped.mono ?_ hkeeps
      rw [Server.onSpacePrepared_eq]
      apply Server.Scoped.setPhase
      split
      · exact hscoped
      · exact hscoped.of_sessions (Server.mirror_sessions _ _ caps v).1
  | unsubscribed _ _ hv =>
      exact hmodify hv fun v _ hscoped => (hscoped.of_sessions rfl).mono hkeeps
  | added hx hp hk hturn hv =>
      refine hmodify hv fun v hget hscoped => ?_
      refine hscoped.memberPrepared (hpoint.sound hget) hkeeps _ _ _ ?_
      -- the new id is of the space it was added to
      have hspace := hturn.frame.members.spaceOf s.coordinator.memberIdGen
      rw [hspace]
      exact (spaceOf_add _ _ _ _).trans (if_pos rfl)
  | announced _ _ hturn hv =>
      rw [hv, announce, JsMap.get?_mapVal] at hv'
      obtain ⟨v, hget, rfl⟩ := Option.map_eq_some_iff.mp hv'
      refine Server.Scoped.mono ?_ hkeeps
      exact Server.Scoped.hears hI _ (h S v hget) (hpoint.sound hget)
        (hpoint.paramsLocal ha hturn rfl fun _ ho => ho)
  | @updated _ _ _ _ S' session event cId resp heard _ _ _ hturn hv =>
      rw [hv, announce, JsMap.get?_mapVal] at hv'
      obtain ⟨v₁, hget, rfl⟩ := Option.map_eq_some_iff.mp hv'
      have hlocal := hpoint.paramsLocal ha hturn rfl fun o ho =>
        List.mem_cons_of_mem (.ack _ resp) ho
      refine Server.Scoped.mono ?_ hkeeps
      split at hget
      · exact Server.Scoped.hears hI _ (h S v₁ hget) (hpoint.sound hget) hlocal
      · rename_i e he
        -- the session that sent the update hears of it first
        rcases JsMap.get?_modify_cases hget with ⟨rfl, v, hv, rfl⟩ | ⟨-, hv⟩
        · have hs := hpoint.sound hv
          have hack : Server.Sound s.coordinator (v.emit session e) :=
            hs.relays hI (.acked session he [])
          exact Server.Scoped.hears hI _
            ((h S v hv).emit_ack session (kind_ackEvent he)) hack hlocal
        · exact Server.Scoped.hears hI _ (h S v₁ hv) (hpoint.sound hv) hlocal

/-- At every point of a run every channel is within its space. -/
theorem Point.scoped (h : Point G s reqs) : ∀ serverId v,
    s.servers.get? serverId = some v → v.Scoped s.coordinator := by
  induction h with
  | initial => exact fun _ _ hv => nomatch hv
  | flushed out _ ih => exact ih
  | started _ _ ih => exact JsMap.forall_set ih fun _ _ hx => nomatch hx
  | called h _ hv hc ih =>
      exact JsMap.forall_set ih ((ih _ _ hv).call (h.sound hv) hc)
  | published h hready hm ha ih => exact hm.scoped h hready ha ih
  | coordinated h _ hready hm ha ih => exact hm.scoped h hready ha ih

end System

/-- **A channel carries nothing of another space.**  Whatever a server has
emitted on a channel names members that were added to the space the channel
was opened for, and a snapshot shows that space. -/
theorem events_of_own_space {s : System} (h : machine.Reachable s)
    {serverId : ServerId} {session : SessionId} {x : Session}
    (hx : s.sessionOf serverId session = some x)
    {event : ServerToClientEvent} (he : event ∈ x.emitted) :
    Within s.coordinator x.auth.spaceUuid event := by
  obtain ⟨past, tr, hrun⟩ := h
  obtain ⟨v, hv, hget⟩ := Option.bind_eq_some_iff.mp hx
  exact (System.Run.point hrun).scoped serverId v hv session x hget event he

section Rooms

/-- Ann joins one room, then Ben and Cat join another one. -/
def twoRooms : List SystemAction :=
  -- two spaces, and one server for both
  [.coordinator (.mediaWorkerConnected 1),
   .coordinator (.createSpaceRequest "room" ⟨"Room", ""⟩
     "subscription-driven" .external),
   .coordinator (.createSpaceRequest "hall" ⟨"Hall", ""⟩
     "subscription-driven" .external),
   -- Ann joins the first one
   .startServer 1, .connect 1 ⟨"room", ⟨"Ann"⟩, ⟨false, false⟩⟩,
   .coordinator (.routerAck 0 "caps"), .coordinator (.resume 0),
   .coordinator (.resume 0), .resume 1 0, .coordinator (.resume 0),
   .resume 1 0,
   -- Ben and Cat join the second one
   .connect 1 ⟨"hall", ⟨"Ben"⟩, ⟨false, false⟩⟩,
   .coordinator (.routerAck 1 "caps"), .coordinator (.resume 0),
   .coordinator (.resume 0), .resume 1 1, .coordinator (.resume 0),
   .resume 1 1,
   .connect 1 ⟨"hall", ⟨"Cat"⟩, ⟨false, false⟩⟩, .resume 1 2,
   .coordinator (.resume 0)]

/-- Ben hears that Cat joins, and Cat is of his room. -/
theorem events_of_own_space_rooms : ∃ s x, machine.Reachable s ∧
    s.sessionOf 1 1 = some x ∧ x.auth.spaceUuid = "hall" ∧
    .memberJoin ⟨2, ⟨"Cat"⟩, ⟨false, false⟩⟩ ∈ x.emitted ∧
    s.coordinator.spaceOf 2 = some "hall" := by
  obtain ⟨past, s, tr, hr, hp⟩ := Machine.Run.exists_of_exec
    (M := machine) (G := anyStep) (l := twoRooms)
    (p := fun r => decide (∃ x ∈ r.2.1.sessionOf 1 1,
      x.auth.spaceUuid = "hall" ∧
      .memberJoin ⟨2, ⟨"Cat"⟩, ⟨false, false⟩⟩ ∈ x.emitted)) rfl (by decide)
  obtain ⟨x, hx, huuid, he⟩ := of_decide_eq_true hp
  have hwithin := events_of_own_space hr.reachable hx he
  have hcat := hwithin.names 2 List.mem_cons_self
  exact ⟨s, x, hr.reachable, hx, huuid, he, huuid ▸ hcat⟩

end Rooms

end Twolk.Signaling
