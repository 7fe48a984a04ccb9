/-
  Twolk.Signaling.Channels
  ────────────────────────
  **WHAT A CHANNEL CARRIES, AND IN WHICH ORDER.**

  Besides acknowledgements, a channel carries the outcome of the connection,
  `spaceInit`, and the view events (`memberJoin`, `memberLeave`,
  `memberStateUpdate`, `transportParams`).  Which of them have been sent is
  told by the stage its session has reached (`Orderly`): a view event goes
  to registered channels only, and a channel is registered right after its
  `spaceInit`.

  Main results:
    * `callback_keeps`  — callbacks of the coordinator move no session to
      another stage, and send view events to joined sessions only,
    * `Point.channels`  — the channels are orderly at every point of a run,
    * `spaceInit_first` — `spaceInit` comes once, before every view event.
-/
import Twolk.Signaling.Points

namespace Twolk.Signaling

open Twolk.Lib Coordinator

/-! ## §1. Kinds of events, stages of a join. -/

/-- The kinds of events on a channel. -/
inductive EventKind where
  /-- `connectionSuccessful` or `connectionFailed`. -/
  | outcome
  | spaceInit
  /-- What refers to the snapshot in `spaceInit`. -/
  | view
  | ack
  deriving DecidableEq

/-- The kind of an event. -/
def ServerToClientEvent.kind : ServerToClientEvent → EventKind
  | .connectionSuccessful | .connectionFailed _ => .outcome
  | .spaceInit .. => .spaceInit
  | .transportParams .. | .memberJoin _ | .memberLeave _ |
    .memberStateUpdate .. => .view
  | .transportProducerConnectAck _ | .transportProducerProduceAck .. |
    .transportConsumerConnectAck _ | .transportConsumerConsumeAck .. |
    .transportConsumerResumeAck _ | .updateMemberStateAck _ => .ack

/-- The event carries `transportParams`. -/
def ServerToClientEvent.isParams : ServerToClientEvent → Bool
  | .transportParams .. => true
  | _ => false

/-- `Phase`, without the result of a settled promise. -/
inductive Stage where
  | preparingSpace
  | preparingMember
  | joined
  | failed
  deriving DecidableEq

/-- How far the session has come. -/
def Session.stage (x : Session) : Stage :=
  match x.phase with
  | .preparingSpace _ => .preparingSpace
  | .preparingMember _ => .preparingMember
  | .joined => .joined
  | .failed _ => .failed

/-- A session has joined when its phase says so. -/
theorem Session.stage_eq_joined {x : Session} :
    x.stage = .joined ↔ x.phase = .joined := by
  unfold Session.stage
  cases x.phase <;> simp

/-- What answers a forwarded event is an ack. -/
theorem kind_ackEvent {event : ForwardedEvent} {cId : String}
    {resp : Response} {e : ServerToClientEvent}
    (h : event.ackEvent cId resp = some e) : e.kind = .ack := by
  unfold ForwardedEvent.ackEvent at h
  split at h <;> cases h <;> rfl

/-! ## §2. What keeps a session where it is. -/

/-- The session stays in its stage, and its channel may carry more: view
events only when it has joined. -/
structure Session.Keeps (x x' : Session) : Prop where
  rest : x' = { x with phase := x'.phase, emitted := x'.emitted }
  stage : x'.stage = x.stage
  emitted : ∃ l, x'.emitted = x.emitted ++ l ∧
    ∀ e ∈ l, e.kind = .ack ∨ e.kind = .view ∧ x.stage = .joined

theorem Session.Keeps.refl (x : Session) : Session.Keeps x x :=
  ⟨rfl, rfl, [], by simp, by simp⟩

theorem Session.Keeps.trans {x x' x'' : Session} (h : Session.Keeps x x')
    (h' : Session.Keeps x' x'') : Session.Keeps x x'' := by
  obtain ⟨l, hl, hk⟩ := h.emitted
  obtain ⟨l', hl', hk'⟩ := h'.emitted
  refine ⟨?_, h'.stage.trans h.stage, l ++ l', ?_, fun e he => ?_⟩
  · rw [h'.rest, h.rest]
  · rw [hl', hl, List.append_assoc]
  · rcases List.mem_append.mp he with he | he
    · exact hk e he
    · rw [← h.stage]
      exact hk' e he

/-- A session that keeps its place keeps its member. -/
theorem Session.Keeps.memberId {x x' : Session} (h : Session.Keeps x x') :
    x'.memberId = x.memberId := by
  rw [h.rest]

/-- And its channel goes on listening, if it did. -/
theorem Session.Keeps.listening {x x' : Session} (h : Session.Keeps x x') :
    x'.listening = x.listening := by
  rw [h.rest]

namespace Server

/-- Registered channels belong to joined sessions of that member. -/
def Registered (v : Server) : Prop :=
  ∀ m session, v.memberIdToChannel.get? m = some session →
    ∃ x, v.sessions.get? session = some x ∧ x.stage = .joined ∧
      x.memberId = some m

/-- Nobody is registered anew, and every session stays in its stage. -/
structure Keeps (v v' : Server) : Prop where
  channels : v'.memberIdToChannel = v.memberIdToChannel
  sessions : ∀ session,
    (v.sessions.get? session = none ∧ v'.sessions.get? session = none) ∨
    ∃ x x', v.sessions.get? session = some x ∧
      v'.sessions.get? session = some x' ∧ x.Keeps x'

/-- Events are heard, and nothing else happens. -/
theorem Keeps.of_map {v v' : Server}
    (channels : v'.memberIdToChannel = v.memberIdToChannel)
    {f : SessionId → Session → Session}
    (get : ∀ session, v'.sessions.get? session
      = (v.sessions.get? session).map (f session))
    (hf : ∀ session x, v.sessions.get? session = some x →
      x.Keeps (f session x)) : Keeps v v' := by
  refine ⟨channels, fun session => ?_⟩
  rw [get]
  cases hx : v.sessions.get? session with
  | none => exact .inl ⟨rfl, rfl⟩
  | some x => exact .inr ⟨x, f session x, rfl, rfl, hf session x hx⟩

theorem Keeps.of_eq {v v' : Server}
    (channels : v'.memberIdToChannel = v.memberIdToChannel)
    (sessions : v'.sessions = v.sessions) : Keeps v v' := by
  refine .of_map (f := fun _ x => x) channels (fun session => ?_)
    fun _ x _ => .refl x
  rw [sessions]
  exact Option.map_id'.symm

theorem Keeps.refl (v : Server) : Keeps v v := .of_eq rfl rfl

theorem Keeps.trans {v v' v'' : Server} (h : Keeps v v')
    (h' : Keeps v' v'') : Keeps v v'' := by
  refine ⟨h'.channels.trans h.channels, fun session => ?_⟩
  rcases h.sessions session with ⟨hx, hx'⟩ | ⟨x, x', hx, hx', hk⟩
  · rcases h'.sessions session with ⟨-, hx''⟩ | ⟨y, -, hy, -⟩
    · exact .inl ⟨hx, hx''⟩
    · rw [hx'] at hy
      cases hy
  · rcases h'.sessions session with ⟨hy, -⟩ | ⟨y, x'', hy, hx'', hk'⟩
    · rw [hx'] at hy
      cases hy
    · rw [hx'] at hy
      cases hy
      exact .inr ⟨x, x'', hx, hx'', hk.trans hk'⟩

/-- Every session is still there afterwards, in the same stage. -/
theorem Keeps.after {v v' : Server} (h : Keeps v v') {session : SessionId}
    {x : Session} (hx : v.sessions.get? session = some x) :
    ∃ x', v'.sessions.get? session = some x' ∧ x.Keeps x' := by
  rcases h.sessions session with ⟨hn, -⟩ | ⟨y, x', hy, hx', hk⟩
  · rw [hn] at hx
    cases hx
  · rw [hx] at hy
    cases hy
    exact ⟨x', hx', hk⟩

/-- Every session was there before, in the same stage. -/
theorem Keeps.before {v v' : Server} (h : Keeps v v') {session : SessionId}
    {x' : Session} (hx' : v'.sessions.get? session = some x') :
    ∃ x, v.sessions.get? session = some x ∧ x.Keeps x' := by
  rcases h.sessions session with ⟨-, hn⟩ | ⟨x, y, hx, hy, hk⟩
  · rw [hn] at hx'
    cases hx'
  · rw [hx'] at hy
    cases hy
    exact ⟨x, hx, hk⟩

/-- Channels that keep their place stay registered. -/
theorem Registered.keeps {v v' : Server} (h : Registered v)
    (hk : Keeps v v') : Registered v' := by
  intro m session hm
  rw [hk.channels] at hm
  obtain ⟨x, hx, hj, hid⟩ := h m session hm
  obtain ⟨x', hx', hxx⟩ := hk.after hx
  exact ⟨x', hx', hxx.stage.trans hj, hxx.memberId.trans hid⟩

/-! ## §3. Callbacks. -/

/-- A broadcast of view events to registered channels moves no session on. -/
theorem broadcast_keeps {v : Server} (h : Registered v)
    (ids : List MemberId) {event : ServerToClientEvent}
    (he : event.kind = .view) : Keeps v (v.broadcast ids event) := by
  obtain ⟨sessions, heq, hget⟩ := v.broadcast_eq event ids
  rw [heq]
  refine .of_map rfl hget fun session x hx =>
    ⟨rfl, rfl, _, rfl, fun e hmem => .inr ?_⟩
  obtain ⟨hn, rfl⟩ := List.mem_replicate.mp hmem
  obtain ⟨m, -, hm⟩ := List.countP_pos_iff.mp (Nat.pos_of_ne_zero hn)
  obtain ⟨y, hy, hj, -⟩ := h m session (of_decide_eq_true hm)
  rw [hx] at hy
  cases hy
  exact ⟨he, hj⟩

/-- An event of the view registers nobody, and moves no session on. -/
theorem emitTo_keeps {v : Server} (h : Registered v) (id : MemberId)
    {event : ServerToClientEvent} (he : event.kind = .view) :
    Keeps v (v.emitTo event id) :=
  broadcast_keeps h [id] he

/-- Nor does an ack. -/
theorem emit_keeps (v : Server) (session : SessionId)
    {event : ServerToClientEvent} (he : event.kind = .ack) :
    Keeps v (v.emit session event) := by
  refine .of_map rfl (v.emit_get session event) fun session' x _ =>
    ⟨rfl, rfl, _, rfl, fun e hmem => .inl ?_⟩
  split at hmem
  · rw [List.mem_singleton.mp hmem, he]
  · cases hmem

/-- Nor does the update of a member. -/
theorem updateMember_keeps {v v' : Server} {memberId : MemberId}
    {update : MemberStateUpdate} (h : Registered v)
    (hu : v.updateMember memberId update = some v') : Keeps v v' := by
  obtain ⟨ref, space, member, -, -, -, rfl⟩ := updateMember_eq hu
  refine Keeps.trans ?_ (broadcast_keeps ?_ _ ?_)
  · exact .of_eq rfl rfl
  · exact h
  · rfl

/-- Nor does what is relayed. -/
theorem onSpaceUpdate_keeps {v : Server} (h : Registered v) (uuid : Uuid)
    (update : SpaceUpdateC) : Keeps v (v.onSpaceUpdate uuid update) := by
  unfold onSpaceUpdate
  split
  · split
    · exact emitTo_keeps h _ rfl
    · exact .refl v
  · split
    · cases hu : v.updateMember _ _ with
      | none => exact .refl v
      | some v' => exact updateMember_keeps h hu
    · exact .refl v

/-- Nor do the updates a server hears. By induction on them. -/
theorem hears_keeps : ∀ (heard : List (Out Publisher)) {v : Server},
    Registered v → Keeps v (heard.foldl System.hears v)
  | [], v, _ => .refl v
  | o :: heard, v, h => by
      have hk : Keeps v (System.hears v o) := by
        cases o with
        | spaceUpdate uuid update => exact onSpaceUpdate_keeps h uuid update
        | _ => exact .refl v
      exact hk.trans (hears_keeps heard (h.keeps hk))

/-- Nor does a change of one session that keeps its stage and its channel. -/
theorem modify_keeps {v : Server} {session : SessionId}
    {f : Session → Session}
    (hf : ∀ x, v.sessions.get? session = some x → x.Keeps (f x)) :
    Keeps v { v with sessions := v.sessions.modify session f } := by
  refine .of_map (f := fun session' x => if session' = session then f x
    else x) rfl (fun session' => ?_) fun session' x hx => ?_
  · rw [JsMap.get?_modify]
    by_cases h : session' = session
    · simp [h]
    · simp [h]
  · split
    · rename_i h
      exact hf x (h ▸ hx)
    · exact .refl x

/-- Settling the promise a session waits for keeps it in its stage. -/
theorem setPhase_keeps {v : Server} {session : SessionId} {x : Session}
    {phase : Phase} (hx : v.sessions.get? session = some x)
    (hp : Session.stage { x with phase } = x.stage) :
    Keeps v (v.setPhase session phase) := by
  refine modify_keeps fun y hy => ?_
  rw [hx] at hy
  cases hy
  exact ⟨rfl, hp, [], by simp, by simp⟩

theorem reject_keeps (v : Server) (session : SessionId) (error : String) :
    Keeps v (v.reject session error) := by
  refine modify_keeps fun x _ => ?_
  split
  · rename_i hp
    exact ⟨rfl, by simp [Session.stage, hp], [], by simp, by simp⟩
  · rename_i hp
    exact ⟨rfl, by simp [Session.stage, hp], [], by simp, by simp⟩
  · exact .refl x

/-- Mirroring a space changes no session. -/
theorem mirror_sessions (uuid : Uuid) (clientSideSpace : ClientSideSpace)
    (caps : Json) (v : Server) :
    (clientSideSpace.members.foldl
      (fun v' m => v'.addMember m.id v.spaceRefGen m.data m.state)
      (v.addSpace uuid clientSideSpace.data caps)).sessions = v.sessions ∧
    (clientSideSpace.members.foldl
      (fun v' m => v'.addMember m.id v.spaceRefGen m.data m.state)
      (v.addSpace uuid clientSideSpace.data caps)).memberIdToChannel
        = v.memberIdToChannel := by
  have hfold : ∀ (l : List ClientSideMember) (ref : SpaceRef) (v : Server),
      (l.foldl (fun v' m => v'.addMember m.id ref m.data m.state) v).sessions
          = v.sessions ∧
        (l.foldl (fun v' m => v'.addMember m.id ref m.data m.state)
          v).memberIdToChannel = v.memberIdToChannel := by
    intro l ref
    induction l with
    | nil => exact fun v => ⟨rfl, rfl⟩
    | cons m l ih => exact fun v => ih (v.addMember m.id ref m.data m.state)
  exact hfold _ _ _

/-- A prepared space waits for its session, which stays in its stage. -/
theorem onSpacePrepared_keeps {v : Server} {session : SessionId}
    {x : Session} (uuid : Uuid) (clientSideSpace : ClientSideSpace)
    (caps : Json) (hx : v.sessions.get? session = some x)
    (hp : x.stage = .preparingSpace) :
    Keeps v (v.onSpacePrepared session uuid clientSideSpace caps) := by
  unfold onSpacePrepared
  dsimp only
  split
  · exact setPhase_keeps hx hp.symm
  · obtain ⟨hs, hc⟩ := mirror_sessions uuid clientSideSpace caps v
    refine Keeps.trans (.of_eq hc hs) (setPhase_keeps (x := x) ?_ hp.symm)
    rw [hs, hx]

/-- So does a prepared member. -/
theorem onMemberPrepared_keeps {v : Server} {session : SessionId}
    {x : Session} (h : Registered v) (uuid : Uuid) (data : MemberData)
    (state : MemberState) (id : MemberId)
    (hx : v.sessions.get? session = some x)
    (hp : x.stage = .preparingMember) :
    Keeps v (v.onMemberPrepared session uuid data state id) := by
  unfold onMemberPrepared
  dsimp only
  split
  · exact setPhase_keeps hx hp.symm
  · split
    · exact setPhase_keeps hx hp.symm
    · rename_i space _
      have hadd : Keeps v (v.addMember id space data state) :=
        .of_eq rfl rfl
      have hview : ServerToClientEvent.kind
          (.memberJoin ⟨id, data, state⟩) = .view := rfl
      have hall := hadd.trans (broadcast_keeps (h.keeps hadd)
        (((v.addMember id space data state).membersOf space).filter
          (· ≠ id)) hview)
      obtain ⟨x', hx', hk⟩ := hall.after hx
      exact hall.trans (setPhase_keeps hx' (hk.stage.trans hp).symm)

/-- Removing a mirrored member leaves sessions and channels alone. -/
theorem removeMember_eq (v : Server) (id : MemberId) :
    (v.removeMember id).sessions = v.sessions ∧
      (v.removeMember id).memberIdToChannel = v.memberIdToChannel := by
  unfold removeMember
  split <;> exact ⟨rfl, rfl⟩

/-- A member who is deleted moves no session on. -/
theorem onMemberDeleted_keeps {v : Server} (h : Registered v)
    (serverId : ServerId) (memberId : MemberId) :
    Keeps v (v.onMemberDeleted serverId memberId).1 := by
  cases href : v.members.get? memberId with
  | none =>
      unfold onMemberDeleted
      rw [href]
      exact .refl v
  | some ref =>
      obtain ⟨hs, hc⟩ := v.removeMember_eq memberId
      have hremove : Keeps v (v.removeMember memberId) := .of_eq hc hs
      rw [onMemberDeleted_eq serverId href]
      exact hremove.trans (broadcast_keeps (h.keeps hremove) _ rfl)

/-- Nor does a list of relayed messages. -/
theorem relays_keeps {c : Coord Publisher} {v v' : Server}
    (h : Registered v) (hr : System.Relays c v v') : Keeps v v' := by
  cases hr with
  | heard heard => exact hears_keeps heard h
  | acked session he heard =>
      have hk := v.emit_keeps session (kind_ackEvent he)
      exact hk.trans (hears_keeps heard (h.keeps hk))
  | rejected session error => exact reject_keeps v session error
  | spacePrepared caps hx hp hs =>
      exact onSpacePrepared_keeps _ _ _ hx (by simp [Session.stage, hp])
  | spaceDeleted uuid => exact .of_eq rfl rfl

/-- **Callbacks move no session to another stage.** -/
theorem callback_keeps {c : Coord Publisher} {serverId : ServerId}
    {v v' : Server} (h : Registered v)
    (hc : System.Callback c serverId v v') : Keeps v v' := by
  cases hc with
  | relayed hr => exact relays_keeps h hr
  | memberPrepared hx hp =>
      exact onMemberPrepared_keeps h _ _ _ _ hx
        (by simp [Session.stage, hp])
  | memberDeleted hm => exact onMemberDeleted_keeps h _ _

/-! ## §4. The order of events. -/

end Server

/-- What a channel carried besides acknowledgements. -/
def outline (l : List ServerToClientEvent) : List ServerToClientEvent :=
  l.filter fun e => e.kind ≠ .ack

/-- The outline of a channel goes on with that of the new events. -/
theorem outline_append (l l' : List ServerToClientEvent) :
    outline (l ++ l') = outline l ++ outline l' :=
  List.filter_append ..

/-- The channel carried what the stage of its session calls for. -/
def Session.Orderly (x : Session) : Prop :=
  match x.stage with
  | .preparingSpace => x.memberId = none ∧ outline x.emitted = []
  -- `connectionSuccessful` is emitted as soon as the space is prepared
  | .preparingMember =>
      x.memberId = none ∧ outline x.emitted = [.connectionSuccessful]
  | .joined => ∃ m caps clientSideSpace views,
      -- the views come last, behind the snapshot
      x.memberId = some m ∧ x.listening = some m ∧
      outline x.emitted = .connectionSuccessful ::
        .spaceInit m caps clientSideSpace :: views ∧
      ∀ e ∈ views, e.kind = .view
  -- a join may fail after the success of the connection
  | .failed => x.memberId = none ∧
      (outline x.emitted = [.connectionFailed ""] ∨
        outline x.emitted = [.connectionSuccessful, .connectionFailed ""])

/-- A session that has not joined has no member. -/
theorem Session.Orderly.memberId_eq_none {x : Session} (h : x.Orderly)
    (hs : x.stage ≠ .joined) : x.memberId = none := by
  unfold Session.Orderly at h
  split at h
  · exact h.1
  · exact h.1
  · rename_i hj
    exact absurd hj hs
  · exact h.1

/-- A session with a member has joined. -/
theorem Session.Orderly.phase_eq {x : Session} (h : x.Orderly) {m : MemberId}
    (hm : x.memberId = some m) : x.phase = .joined := by
  by_contra hne
  rw [h.memberId_eq_none (mt Session.stage_eq_joined.mp hne)] at hm
  cases hm

/-- A session with a member id listens for it, and was sent its snapshot. -/
theorem Session.Orderly.joined {x : Session} (h : x.Orderly) {m : MemberId}
    (hm : x.memberId = some m) : x.listening = some m ∧
      ∃ caps clientSideSpace,
        .spaceInit m caps clientSideSpace ∈ x.emitted := by
  have hjoined := Session.stage_eq_joined.mpr (h.phase_eq hm)
  unfold Session.Orderly at h
  rw [hjoined] at h
  obtain ⟨m', caps, clientSideSpace, views, hm', hlisten, hout, -⟩ := h
  rw [hm] at hm'
  cases hm'
  refine ⟨hlisten, caps, clientSideSpace, ?_⟩
  have hin : .spaceInit m caps clientSideSpace ∈ outline x.emitted := by
    rw [hout]
    exact List.mem_cons_of_mem _ List.mem_cons_self
  exact List.mem_of_mem_filter hin

/-- No event but an acknowledgement reaches a session that has not
joined. -/
theorem Session.Keeps.outline_eq {x x' : Session} (hk : x.Keeps x')
    (hs : x.stage ≠ .joined) : outline x'.emitted = outline x.emitted := by
  obtain ⟨l, hl, hkind⟩ := hk.emitted
  have hnil : outline l = [] := by
    refine List.filter_eq_nil_iff.mpr fun e he => ?_
    have hack := (hkind e he).resolve_right fun h => hs h.2
    simp [hack]
  rw [hl, outline_append, hnil, List.append_nil]

/-- A session that stays in its stage stays orderly. -/
theorem Session.Orderly.keeps {x x' : Session} (h : x.Orderly)
    (hk : x.Keeps x') : x'.Orderly := by
  unfold Session.Orderly at h ⊢
  rw [hk.stage, hk.memberId, hk.listening]
  cases hs : x.stage with
  | joined =>
      rw [hs] at h
      obtain ⟨m, caps, space, views, hm, hlisten, hx, hv⟩ := h
      obtain ⟨l, hl, hkind⟩ := hk.emitted
      refine ⟨m, caps, space, views ++ outline l, hm, hlisten, ?_,
        fun e he => ?_⟩
      · rw [hl, outline_append, hx]
        rfl
      · rcases List.mem_append.mp he with he | he
        · exact hv e he
        · obtain ⟨he, hne⟩ := List.mem_filter.mp he
          exact ((hkind e he).resolve_left (of_decide_eq_true hne)).1
  | preparingSpace | preparingMember | failed =>
      rw [hs] at h
      rw [hk.outline_eq (by rw [hs]; decide)]
      exact h

namespace Server

/-- Every channel of the server is orderly. -/
structure Channels (v : Server) : Prop where
  registered : v.Registered
  orderly : ∀ session x, v.sessions.get? session = some x → x.Orderly

/-- Sessions that keep their place keep their channels in order. -/
theorem Channels.keeps {v v' : Server} (h : Channels v) (hk : Keeps v v') :
    Channels v' where
  registered := h.registered.keeps hk
  orderly session x' hx' := by
    obtain ⟨x, hx, hxy⟩ := hk.before hx'
    exact (h.orderly session x hx).keeps hxy

/-- One session has changed, and is orderly again; `hreg` says how the
registrations changed. -/
theorem Channels.puts {v u v' : Server} {session : SessionId} {x' : Session}
    (h : Channels v) (hu : u.sessions = v.sessions)
    (hp : Puts u session x' v') (ho : x'.Orderly)
    (hreg : ∀ m session', u.memberIdToChannel.get? m = some session' →
      if session' = session then x'.stage = .joined ∧ x'.memberId = some m
      else v.memberIdToChannel.get? m = some session') : Channels v' where
  registered m session' hm := by
    obtain ⟨sessions, rfl⟩ := hp.rest
    have hm := hreg m session' hm
    split at hm
    · rename_i heq
      rw [heq]
      exact ⟨x', hp.self, hm⟩
    · rename_i hne
      obtain ⟨x, hx, hx'⟩ := h.registered m session' hm
      refine ⟨x, ?_, hx'⟩
      rw [hp.others session' hne, hu, hx]
  orderly session' y hy := by
    by_cases heq : session' = session
    · rw [heq, hp.self] at hy
      cases hy
      exact ho
    · rw [hp.others session' heq, hu] at hy
      exact h.orderly session' y hy

/-- A session that has not joined is not registered. -/
theorem Channels.puts_unregistered {v v' : Server} {session : SessionId}
    {x x' : Session} (h : Channels v) (hp : Puts v session x' v')
    (hx : v.sessions.get? session = some x) (hs : x.stage ≠ .joined)
    (ho : x'.Orderly) : Channels v' := by
  refine h.puts rfl hp ho fun m session' hm => ?_
  split
  · rename_i heq
    obtain ⟨y, hy, hj, -⟩ := h.registered m session' hm
    rw [heq, hx] at hy
    cases hy
    exact absurd hj hs
  · exact hm

/-- When a session goes on, the channels stay in order. -/
theorem Channels.resume {v : Server} {serverId : ServerId}
    {session : SessionId} {x : Session} {p : Server × Option Request}
    (h : Channels v) (hx : v.sessions.get? session = some x)
    (hres : v.resume serverId session x = some p) : Channels p.1 := by
  have ho := h.orderly session x hx
  -- only a session that waits can go on, and its phase says for what
  have hstage : ∀ r, x.phase = .preparingMember r →
      x.stage = .preparingMember := fun r hp => by
    simp [Session.stage, hp]
  have hbefore : ∀ r, x.phase = .preparingSpace r →
      x.stage = .preparingSpace := fun r hp => by
    simp [Session.stage, hp]
  -- by how it goes on; what it emits extends the outline
  cases resumes_of_resume hx hres with
  | rejected hp hputs =>
      rcases hp with hp | hp
      · have hs := hbefore _ hp
        rw [Session.Orderly, hs] at ho
        refine h.puts_unregistered hputs hx (by simp [hs]) ⟨ho.1, .inl ?_⟩
        rw [Session.hear, outline_append, ho.2]
        rfl
      · have hs := hstage _ hp
        rw [Session.Orderly, hs] at ho
        refine h.puts_unregistered hputs hx (by simp [hs]) ⟨ho.1, .inr ?_⟩
        rw [Session.hear, outline_append, ho.2]
        rfl
  | spacePrepared hp _ hputs =>
      have hs := hbefore _ hp
      rw [Session.Orderly, hs] at ho
      refine h.puts_unregistered hputs hx (by simp [hs]) ⟨ho.1, ?_⟩
      rw [Session.hear, outline_append, ho.2]
      rfl
  | spaceGone hp _ hputs =>
      have hs := hbefore _ hp
      rw [Session.Orderly, hs] at ho
      refine h.puts_unregistered hputs hx (by simp [hs]) ⟨ho.1, ?_⟩
      rw [Session.hear, outline_append, ho.2]
      rfl
  | unmirrored hp _ hputs =>
      have hs := hstage _ hp
      rw [Session.Orderly, hs] at ho
      refine h.puts_unregistered hputs hx (by simp [hs]) ⟨ho.1, .inr ?_⟩
      rw [Session.hear, outline_append, ho.2]
      rfl
  -- it has joined: its channel gets the snapshot, and is registered
  | @joined v' memberId space hp _ hputs =>
      have hs := hstage _ hp
      rw [Session.Orderly, hs] at ho
      refine h.puts (u := { v with
        memberIdToChannel := v.memberIdToChannel.set memberId session })
        rfl hputs ?_ fun m session' hm => ?_
      · refine ⟨memberId, space.routerRtpCapabilities,
          getClientSideSpace space, [], rfl, rfl, ?_, by simp⟩
        rw [Session.hear, outline_append, ho.2]
        rfl
      · have hm : (v.memberIdToChannel.set memberId session).get? m
          = some session' := hm
        rw [JsMap.get?_set] at hm
        split at hm
        · rename_i heq
          cases hm
          rw [if_pos rfl, heq]
          exact ⟨rfl, rfl⟩
        -- the other registrations are of sessions that had joined before
        · split
          · rename_i heq
            obtain ⟨y, hy, hj, -⟩ := h.registered m session' hm
            rw [heq, hx] at hy
            cases hy
            rw [hs] at hj
            cases hj
          · exact hm

/-- So they do when a channel closes. -/
theorem Channels.close {v : Server} {session : SessionId} {x : Session}
    (serverId : ServerId) (h : Channels v)
    (hx : v.sessions.get? session = some x) :
    Channels (v.close serverId session x).1 := by
  have ho : Session.Orderly { x with isOpen := false } :=
    h.orderly session x hx
  have hreg : ∀ m session', v.memberIdToChannel.get? m = some session' →
      if session' = session then x.stage = .joined ∧ x.memberId = some m
      else v.memberIdToChannel.get? m = some session' := by
    intro m session' hm
    split
    · rename_i heq
      obtain ⟨y, hy, hj⟩ := h.registered m session' hm
      rw [heq, hx] at hy
      cases hy
      exact hj
    · exact hm
  cases hm : x.memberId with
  | none => exact h.puts rfl (close_eq_none serverId hx hm).1 ho hreg
  | some memberId =>
      refine h.puts (u := { v with
        memberIdToChannel := v.memberIdToChannel.delete memberId })
        rfl (close_eq_some serverId hx hm).1 ho fun m session' hm => ?_
      exact hreg m session' (JsMap.get?_of_get?_delete hm)

/-- So they do when a session starts, on a new channel. -/
theorem Channels.start {v : Server} (serverId : ServerId) (auth : Auth)
    (h : Channels v) (hfresh : ∀ session x,
      v.sessions.get? session = some x → session < v.sessionIdGen) :
    Channels (v.start serverId auth).1 := by
  refine ⟨fun m session hm => ?_, fun session x hx => ?_⟩
  · rw [start_memberIdToChannel] at hm
    obtain ⟨x, hx, hj⟩ := h.registered m session hm
    exact ⟨x, start_old serverId auth (hfresh session x hx) hx, hj⟩
  · rcases start_sessions hx with hx | ⟨result, rfl⟩
    · exact h.orderly session x hx
    · exact ⟨rfl, rfl⟩

theorem updateMemberState_keeps {v : Server} (h : Registered v)
    (session : SessionId) (memberId : MemberId)
    (newState : MemberStateUpdate) (cId : String) :
    Keeps v (v.updateMemberState session memberId newState cId) := by
  unfold updateMemberState
  refine Keeps.trans ?_ (emit_keeps _ session rfl)
  cases hu : v.updateMember memberId newState with
  | none => exact .refl v
  | some v' => exact updateMember_keeps h hu

end Server

/-- **The channels are orderly at every point of a run.** -/
theorem System.Point.channels
    {G : Guard System SystemAction (Out Publisher)} {s : System}
    {reqs : List Request} (h : System.Point G s reqs) {serverId : ServerId}
    {v : Server} (hv : s.servers.get? serverId = some v) : v.Channels := by
  refine h.server Server.Channels ⟨fun _ _ hm => (nomatch hm),
    fun _ _ hx => (nomatch hx)⟩ (fun h _ hv hI hc => ?_)
    (fun _ _ hI hc => hI.keeps (Server.callback_keeps hI.registered hc))
    serverId v hv
  cases hc with
  | connect auth => exact hI.start _ auth (h.linked.fresh _ _ · · hv)
  | resume hx hp => exact hI.resume hx hp
  | close hx _ => exact hI.close _ hx
  | updateMemberState newState cId _ _ _ =>
      exact hI.keeps
        (Server.updateMemberState_keeps hI.registered _ _ newState cId)
  | forward => exact hI

/-! ## §5. `spaceInit` comes first. -/

/-- An orderly channel carries an outcome at most, or a success, its
`spaceInit`, and view events. -/
theorem Session.Orderly.outline_cases {x : Session} (h : x.Orderly) :
    (∀ e ∈ outline x.emitted, e.kind = .outcome) ∨
    ∃ m caps clientSideSpace views,
      outline x.emitted = .connectionSuccessful ::
        .spaceInit m caps clientSideSpace :: views ∧
      ∀ e ∈ views, e.kind = .view := by
  unfold Session.Orderly at h
  split at h
  · exact .inl (by simp [h.2])
  · exact .inl (by simp [h.2, ServerToClientEvent.kind])
  · obtain ⟨m, caps, space, views, -, -, hx⟩ := h
    exact .inr ⟨m, caps, space, views, hx⟩
  · rcases h.2 with h | h
    · exact .inl (by simp [h, ServerToClientEvent.kind])
    · exact .inl (by simp [h, ServerToClientEvent.kind])

/-- **`spaceInit` comes first.**  On every channel it is emitted at most
once, and every `memberJoin`, `memberLeave`, `memberStateUpdate` and
`transportParams` is emitted after it. -/
theorem spaceInit_first {s : System} (h : machine.Reachable s)
    {serverId : ServerId} {v : Server} {session : SessionId} {x : Session}
    (hv : s.servers.get? serverId = some v)
    (hx : v.sessions.get? session = some x) :
    x.emitted.countP (·.kind = .spaceInit) ≤ 1 ∧
      ∀ pre e post, x.emitted = pre ++ e :: post → e.kind = .view →
        ∃ i ∈ pre, i.kind = .spaceInit := by
  obtain ⟨past, tr, hrun⟩ := h
  have ho := ((System.Run.point hrun).channels hv).orderly session x hx
  have hcount : x.emitted.countP (·.kind = .spaceInit)
      = (outline x.emitted).countP (·.kind = .spaceInit) := by
    unfold outline
    rw [List.countP_filter]
    refine List.countP_congr fun e _ => ?_
    cases e.kind <;> simp
  rcases ho.outline_cases with hall | ⟨m, caps, space, views, hout, hviews⟩
  · refine ⟨?_, fun pre e post heq he => ?_⟩
    · rw [hcount, List.countP_eq_zero.mpr fun e he => ?_]
      · exact Nat.zero_le 1
      · simp [hall e he]
    · have hmem : e ∈ outline x.emitted := by
        refine List.mem_filter.mpr ⟨?_, by simp [he]⟩
        simp [heq]
      have hk := hall e hmem
      rw [he] at hk
      cases hk
  · refine ⟨?_, fun pre e post heq he => ?_⟩
    · have hzero : views.countP (·.kind = .spaceInit) = 0 :=
        List.countP_eq_zero.mpr fun e he => by simp [hviews e he]
      rw [hcount, hout, List.countP_cons, List.countP_cons, hzero]
      simp [ServerToClientEvent.kind]
    · have hsplit : outline pre ++ e :: outline post
          = .connectionSuccessful :: .spaceInit m caps space :: views := by
        rw [← hout, heq, outline_append]
        congr 1
        simp [outline, he]
      have hin : ServerToClientEvent.spaceInit m caps space
          ∈ outline pre := by
        -- the first two events of the outline are not view events
        match hpre : outline pre with
        | [] =>
            rw [hpre] at hsplit
            obtain ⟨rfl, -⟩ := List.cons.inj hsplit
            cases he
        | [_] =>
            rw [hpre] at hsplit
            obtain ⟨rfl, -⟩ := List.cons.inj (List.cons.inj hsplit).2
            cases he
        | _ :: i :: rest =>
            rw [hpre] at hsplit
            obtain ⟨rfl, -⟩ := List.cons.inj (List.cons.inj hsplit).2
            simp
      exact ⟨_, (List.mem_filter.mp hin).1, rfl⟩

/-- The first of two members hears the second one join. -/
theorem spaceInit_first_two : ∃ s v x, machine.Reachable s ∧
    s.servers.get? 1 = some v ∧ v.sessions.get? 0 = some x ∧
    .memberJoin ⟨1, ⟨"Ben"⟩, ⟨false, false⟩⟩ ∈ x.emitted ∧
    x.emitted.countP (·.kind = .spaceInit) ≤ 1 ∧
      ∀ pre e post, x.emitted = pre ++ e :: post → e.kind = .view →
        ∃ i ∈ pre, i.kind = .spaceInit := by
  obtain ⟨past, s, tr, hr, hp⟩ := Machine.Run.exists_of_exec
    (M := machine) (G := anyStep) (l := twoMembers)
    (p := fun r => decide (∃ x ∈ (r.2.1.servers.get? 1).bind
      (fun v => v.sessions.get? 0),
      .memberJoin ⟨1, ⟨"Ben"⟩, ⟨false, false⟩⟩ ∈ x.emitted))
    rfl (by decide)
  obtain ⟨x, hx, hmem⟩ := of_decide_eq_true hp
  obtain ⟨v, hv, hx⟩ := Option.bind_eq_some_iff.mp hx
  exact ⟨s, v, x, hr.reachable, hv, hx, hmem,
    spaceInit_first hr.reachable hv hx⟩

end Twolk.Signaling
