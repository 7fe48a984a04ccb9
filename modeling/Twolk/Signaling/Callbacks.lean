/-
  Twolk.Signaling.Callbacks
  ─────────────────────────
  **WHAT CALLBACKS AND SERVER FUNCTIONS DO TO A SERVER.**

  The coordinator's answers and updates run callbacks of the signaling
  servers.  A broadcast reaches the registered channels among its members
  (`broadcast_eq`), and `emitted` is all that it changes.  Only the answer a
  session waits for changes where the session stands (`SessionFrame`).

  The functions a server runs on its own (a join, a close) change one session
  (`Puts`), and are in normal form here: `start_eq`, `resumes_of_resume`,
  `close_eq_none`, `close_eq_some`.
-/
import Twolk.Signaling.Session

namespace Twolk.Signaling

open Twolk.Lib

/-! ## §1. Emitting. -/

/-- The channel of the session carries `events`. -/
def Session.hear (x : Session) (events : List ServerToClientEvent) :
    Session :=
  { x with emitted := x.emitted ++ events }

/-- The state a member joins with. -/
def Auth.joinState (auth : Auth) : MemberState :=
  { auth.memberState with transportIsConnected := false }

namespace Server

/-- How many of `ids` are registered for the channel of `session`. -/
def registrations (v : Server) (ids : List MemberId)
    (session : SessionId) : Nat :=
  ids.countP fun m => v.memberIdToChannel.get? m = some session

/-- An event is heard on its own channel. -/
theorem emit_get (v : Server) (session : SessionId)
    (event : ServerToClientEvent) (session' : SessionId) :
    (v.emit session event).sessions.get? session'
      = (v.sessions.get? session').map fun x =>
        x.hear (if session' = session then [event] else []) := by
  unfold emit Session.hear
  dsimp only
  rw [JsMap.get?_modify]
  split
  · rename_i h
    rw [h]
  · cases v.sessions.get? session' <;> simp

/-- An event for a member is heard on the channel registered for it, if one is.
-/
theorem emitTo_eq (v : Server) (event : ServerToClientEvent)
    (id : MemberId) : ∃ sessions, v.emitTo event id = { v with sessions } ∧
      ∀ session, sessions.get? session
        = (v.sessions.get? session).map fun x =>
          x.hear (List.replicate (v.registrations [id] session) event) := by
  unfold emitTo
  cases hid : v.memberIdToChannel.get? id with
  | none =>
      refine ⟨v.sessions, rfl, fun session => ?_⟩
      have hzero : v.registrations [id] session = 0 := by
        simp [registrations, hid]
      rw [hzero]
      cases v.sessions.get? session <;> simp [Session.hear]
  | some channel =>
      refine ⟨_, rfl, fun session => ?_⟩
      refine (v.emit_get channel event session).trans ?_
      by_cases h : session = channel
      · have hone : v.registrations [id] session = 1 := by
          simp [registrations, hid, h]
        rw [hone, if_pos h, List.replicate_one]
      · have hzero : v.registrations [id] session = 0 := by
          simp [registrations, hid, Ne.symm h]
        rw [hzero, if_neg h, List.replicate_zero]

/-- **A broadcast**, by induction on the members notified. -/
theorem broadcast_eq (event : ServerToClientEvent) :
    ∀ (ids : List MemberId) (v : Server),
      ∃ sessions, v.broadcast ids event = { v with sessions } ∧
        ∀ session, sessions.get? session
          = (v.sessions.get? session).map fun x =>
            x.hear (List.replicate (v.registrations ids session) event)
  | [], v => by
      refine ⟨v.sessions, rfl, fun session => ?_⟩
      cases v.sessions.get? session <;> simp [Session.hear, registrations]
  | id :: ids, v => by
      obtain ⟨sessions, heq, hget⟩ := v.emitTo_eq event id
      obtain ⟨sessions', heq', hget'⟩ :=
        broadcast_eq event ids (v.emitTo event id)
      refine ⟨sessions', ?_, fun session => ?_⟩
      · show (v.emitTo event id).broadcast ids event = _
        rw [heq', heq]
      · rw [hget' session, heq]
        dsimp only
        rw [hget session, Option.map_map]
        congr 1
        funext x
        simp only [Function.comp_def, Session.hear, registrations,
          List.append_assoc, List.replicate_append_replicate,
          List.countP_cons, List.countP_nil]
        congr 3
        omega

/-! ## §2. Where sessions stand. -/

/-- From `v` to `v'` only the sessions in `p` may have moved. -/
structure SessionFrame (p : SessionId → Prop) (v v' : Server) : Prop where
  sessionIdGen : v'.sessionIdGen = v.sessionIdGen
  auth : ∀ session, (v'.sessions.get? session).map Session.auth
    = (v.sessions.get? session).map Session.auth
  standing : ∀ session, ¬ p session →
    (v'.sessions.get? session).map (fun x => (x.auth, x.phase))
      = (v.sessions.get? session).map fun x => (x.auth, x.phase)

namespace SessionFrame

variable {p : SessionId → Prop} {v v' v'' : Server}

theorem refl (p : SessionId → Prop) (v : Server) : SessionFrame p v v :=
  ⟨rfl, fun _ => rfl, fun _ _ => rfl⟩

theorem trans (h : SessionFrame p v v') (h' : SessionFrame p v' v'') :
    SessionFrame p v v'' where
  sessionIdGen := h'.sessionIdGen.trans h.sessionIdGen
  auth session := (h'.auth session).trans (h.auth session)
  standing session hs :=
    (h'.standing session hs).trans (h.standing session hs)

theorem mono {q : SessionId → Prop} (hpq : ∀ session, p session → q session)
    (h : SessionFrame p v v') : SessionFrame q v v' where
  sessionIdGen := h.sessionIdGen
  auth := h.auth
  standing session hs := h.standing session fun hp => hs (hpq session hp)

/-- A session may change in other respects. -/
theorem of_map (gen : v'.sessionIdGen = v.sessionIdGen)
    {f : SessionId → Session → Session}
    (get : ∀ session, v'.sessions.get? session
      = (v.sessions.get? session).map (f session))
    (hf : ∀ session x, (f session x).auth = x.auth ∧
      (¬ p session → (f session x).phase = x.phase)) :
    SessionFrame p v v' where
  sessionIdGen := gen
  auth session := by
    rw [get]
    cases v.sessions.get? session with
    | none => rfl
    | some x => exact congrArg some (hf session x).1
  standing session hs := by
    rw [get]
    cases v.sessions.get? session with
    | none => rfl
    | some x =>
      obtain ⟨ha, hp⟩ := hf session x
      simp only [Option.map_some, ha, hp hs]

end SessionFrame

/-- A broadcast moves no session on. -/
theorem broadcast_frame (p : SessionId → Prop) (v : Server)
    (ids : List MemberId) (event : ServerToClientEvent) :
    SessionFrame p v (v.broadcast ids event) := by
  obtain ⟨sessions, heq, hget⟩ := v.broadcast_eq event ids
  rw [heq]
  exact .of_map rfl hget fun _ _ => ⟨rfl, fun _ => rfl⟩

/-- Nor does an event. -/
theorem emit_frame (p : SessionId → Prop) (v : Server)
    (session : SessionId) (event : ServerToClientEvent) :
    SessionFrame p v (v.emit session event) :=
  .of_map rfl (v.emit_get session event) fun _ _ => ⟨rfl, fun _ => rfl⟩

theorem SessionFrame.of_eq {p : SessionId → Prop} {v v' : Server}
    (sessions : v'.sessions = v.sessions)
    (gen : v'.sessionIdGen = v.sessionIdGen) : SessionFrame p v v' where
  sessionIdGen := gen
  auth _ := by rw [sessions]
  standing _ _ := by rw [sessions]

/-- `updateMember`, in normal form. -/
theorem updateMember_eq {v v' : Server} {memberId : MemberId}
    {update : MemberStateUpdate}
    (h : v.updateMember memberId update = some v') :
    ∃ ref space member, v.members.get? memberId = some ref ∧
      v.spaceHeap.get? ref = some space ∧
      space.members.get? memberId = some member ∧
      v' = ({ v with
        spaceHeap := v.spaceHeap.modify ref fun s =>
          { s with
            members := s.members.modify memberId fun m =>
              { m with state := member.state.merge update } } }
        : Server).broadcast space.members.keys
          (.memberStateUpdate memberId (member.state.merge update)) := by
  obtain ⟨ref, href, h⟩ := Option.bind_eq_some_iff.mp h
  obtain ⟨member, hmember, rfl⟩ := Option.map_eq_some_iff.mp h
  obtain ⟨space, hspace, hmember⟩ := Option.bind_eq_some_iff.mp hmember
  refine ⟨ref, space, member, href, hspace, hmember, ?_⟩
  have hids : membersOf { v with
      spaceHeap := v.spaceHeap.modify ref fun s =>
        { s with
          members := s.members.modify memberId fun m =>
            { m with state := member.state.merge update } } } ref
      = space.members.keys := by
    simp only [membersOf, JsMap.get?_modify_self, hspace, Option.map_some,
      Option.getD_some]
    unfold JsMap.keys JsMap.modify
    rw [List.map_map]
    refine List.map_congr_left fun e _ => ?_
    by_cases he : e.1 = memberId <;> simp [he]
  dsimp only
  rw [hids]

/-- Nor does the update of a mirrored member. -/
theorem updateMember_frame (p : SessionId → Prop) {v v' : Server}
    {memberId : MemberId} {update : MemberStateUpdate}
    (h : v.updateMember memberId update = some v') :
    SessionFrame p v v' := by
  obtain ⟨ref, space, member, -, -, -, rfl⟩ := updateMember_eq h
  refine SessionFrame.trans ?_ (broadcast_frame p _ _ _)
  exact .of_eq rfl rfl

/-- The ack of `deleteMember`, in normal form. -/
theorem onMemberDeleted_eq {v : Server} (serverId : ServerId)
    {memberId : MemberId} {ref : SpaceRef}
    (href : v.members.get? memberId = some ref) :
    (v.onMemberDeleted serverId memberId).1
      = (v.removeMember memberId).broadcast
        (((v.removeMember memberId).membersOf ref).filter (· ≠ memberId))
        (.memberLeave memberId) := by
  unfold onMemberDeleted
  rw [href]
  dsimp only
  split <;> rfl

theorem onMemberDeleted_frame (p : SessionId → Prop) (v : Server)
    (serverId : ServerId) (memberId : MemberId) :
    SessionFrame p v (v.onMemberDeleted serverId memberId).1 := by
  cases href : v.members.get? memberId with
  | none =>
      unfold onMemberDeleted
      rw [href]
      exact .refl p v
  | some ref =>
      rw [onMemberDeleted_eq serverId href]
      refine SessionFrame.trans (.of_eq ?_ ?_) (broadcast_frame p _ _ _)
      · unfold removeMember
        rw [href]
      · unfold removeMember
        rw [href]

theorem emitTo_frame (p : SessionId → Prop) (v : Server)
    (event : ServerToClientEvent) (id : MemberId) :
    SessionFrame p v (v.emitTo event id) := by
  unfold emitTo
  split
  · exact .refl p v
  · exact emit_frame p v _ event

/-- Nor does anything relayed. -/
theorem onSpaceUpdate_frame (p : SessionId → Prop) (v : Server)
    (uuid : Uuid) (update : SpaceUpdateC) :
    SessionFrame p v (v.onSpaceUpdate uuid update) := by
  unfold onSpaceUpdate
  split
  · split
    · exact emitTo_frame p v _ _
    · exact .refl p v
  · split
    · cases h : v.updateMember _ _ with
      | none => exact .refl p v
      | some v' => exact updateMember_frame p h
    · exact .refl p v

/-- A change of one session, which keeps its `auth`. -/
theorem modifySession_frame (v : Server) (session : SessionId)
    {f : Session → Session} (hf : ∀ x, (f x).auth = x.auth) :
    SessionFrame (· = session) v
      { v with sessions := v.sessions.modify session f } := by
  refine .of_map (f := fun session' x =>
    if session' = session then f x else x) rfl ?_ ?_
  · intro session'
    rw [JsMap.get?_modify]
    by_cases h : session' = session
    · simp [h]
    · simp [h]
  · intro session' x
    split
    · rename_i h
      exact ⟨hf x, fun hn => absurd h hn⟩
    · exact ⟨rfl, fun _ => rfl⟩

theorem setPhase_frame (v : Server) (session : SessionId) (phase : Phase) :
    SessionFrame (· = session) v (v.setPhase session phase) :=
  modifySession_frame v session fun _ => rfl

theorem reject_frame (v : Server) (session : SessionId) (error : String) :
    SessionFrame (· = session) v (v.reject session error) := by
  refine modifySession_frame v session fun x => ?_
  split <;> rfl

theorem addMember_frame (p : SessionId → Prop) (v : Server) (id : MemberId)
    (space : SpaceRef) (data : MemberData) (state : MemberState) :
    SessionFrame p v (v.addMember id space data state) :=
  .of_eq rfl rfl

/-- Only the session whose space has been prepared moves on. -/
theorem onSpacePrepared_frame (v : Server) (session : SessionId)
    (uuid : Uuid) (clientSideSpace : ClientSideSpace) (caps : Json) :
    SessionFrame (· = session) v
      (v.onSpacePrepared session uuid clientSideSpace caps) := by
  have hfold : ∀ (l : List ClientSideMember) (ref : SpaceRef) (v : Server),
      SessionFrame (· = session) v (l.foldl
        (fun v' m => v'.addMember m.id ref m.data m.state) v) := by
    intro l ref
    induction l with
    | nil => exact fun v => .refl _ v
    | cons m l ih =>
        exact fun v => (addMember_frame _ v _ _ _ _).trans (ih _)
  unfold onSpacePrepared
  dsimp only
  split
  · exact setPhase_frame v session _
  · refine SessionFrame.trans ?_ (setPhase_frame _ session _)
    refine SessionFrame.trans ?_ (hfold _ _ _)
    exact .of_eq rfl rfl

/-- Only the session whose member has been prepared moves on. -/
theorem onMemberPrepared_frame (v : Server) (session : SessionId)
    (uuid : Uuid) (data : MemberData) (state : MemberState)
    (id : MemberId) :
    SessionFrame (· = session) v
      (v.onMemberPrepared session uuid data state id) := by
  unfold onMemberPrepared
  dsimp only
  split
  · exact setPhase_frame v session _
  · split
    · exact setPhase_frame v session _
    · refine SessionFrame.trans ?_ (setPhase_frame _ session _)
      exact (addMember_frame _ v _ _ _ _).trans (broadcast_frame _ _ _ _)

/-! ## §3. Changes of one session. -/

/-- `v'` is `v` with the record `x'` for `session`. -/
structure Puts (v : Server) (session : SessionId) (x' : Session)
    (v' : Server) : Prop where
  rest : ∃ sessions, v' = { v with sessions }
  self : v'.sessions.get? session = some x'
  others : ∀ session', session' ≠ session →
    v'.sessions.get? session' = v.sessions.get? session'

namespace Puts

variable {v v' v'' : Server} {session : SessionId} {x x' x'' : Session}

theorem trans (h : Puts v session x' v') (h' : Puts v' session x'' v'') :
    Puts v session x'' v'' where
  rest := by
    obtain ⟨sessions, rfl⟩ := h.rest
    obtain ⟨sessions', rfl⟩ := h'.rest
    exact ⟨sessions', rfl⟩
  self := h'.self
  others session' hne :=
    (h'.others session' hne).trans (h.others session' hne)

theorem modify (hx : v.sessions.get? session = some x)
    (f : Session → Session) :
    Puts v session (f x)
      { v with sessions := v.sessions.modify session f } where
  rest := ⟨_, rfl⟩
  self := by
    dsimp only
    rw [JsMap.get?_modify_self, hx]
    rfl
  others session' hne := JsMap.get?_modify_of_ne _ _ hne

theorem emit (hx : v.sessions.get? session = some x)
    (event : ServerToClientEvent) :
    Puts v session (x.hear [event]) (v.emit session event) :=
  .modify hx fun x => x.hear [event]

theorem setPhase (hx : v.sessions.get? session = some x) (phase : Phase) :
    Puts v session { x with phase } (v.setPhase session phase) :=
  .modify hx fun x => { x with phase }

/-- The session fails to join: it emits the failure, and its phase says why. -/
theorem failJoin (hx : v.sessions.get? session = some x) (error : String) :
    Puts v session
      { x.hear [.connectionFailed ""] with phase := .failed error }
      (v.failJoin session error) :=
  (Puts.emit hx (.connectionFailed "")).trans
    (.setPhase (Puts.emit hx (.connectionFailed "")).self _)

/-- What writes one session, and keeps its `auth`, moves no other one. -/
theorem frame (h : Puts v session x' v')
    (hx : v.sessions.get? session = some x) (ha : x'.auth = x.auth) :
    SessionFrame (· = session) v v' where
  sessionIdGen := by
    obtain ⟨sessions, rfl⟩ := h.rest
    rfl
  auth session' := by
    by_cases heq : session' = session
    · rw [heq, h.self, hx, Option.map_some, Option.map_some, ha]
    · rw [h.others session' heq]
  standing session' hne := by rw [h.others session' hne]

end Puts

/-- What the next stretch of `start` does. -/
inductive Resumes (v : Server) (serverId : ServerId)
    (session : SessionId) (x : Session) : Server × Option Request → Prop
  /-- The promise was rejected. -/
  | rejected {v' : Server} {error : String}
      (hp : x.phase = .preparingSpace (some (.error error)) ∨
        x.phase = .preparingMember (some (.error error)))
      (h : Puts v session
        { x.hear [.connectionFailed ""] with phase := .failed error } v') :
      Resumes v serverId session x (v', none)
  | spacePrepared {v' : Server}
      (hp : x.phase = .preparingSpace (some (.ok ())))
      (hs : v.spaces.has x.auth.spaceUuid = true)
      (h : Puts v session
        { x.hear [.connectionSuccessful] with
          phase := .preparingMember none } v') :
      Resumes v serverId session x (v',
        some (.addMemberRequest serverId x.auth.spaceUuid x.auth.memberData
          x.auth.joinState (.prepareMember serverId session
            x.auth.spaceUuid x.auth.memberData x.auth.joinState)))
  | spaceGone {v' : Server}
      (hp : x.phase = .preparingSpace (some (.ok ())))
      (hs : v.spaces.has x.auth.spaceUuid = false)
      (h : Puts v session
        { x.hear [.connectionSuccessful] with
          phase := .preparingMember (some (.error "space not found")) } v') :
      Resumes v serverId session x (v', none)
  /-- `space.routerRtpCapabilities` of no space. -/
  | unmirrored {v' : Server} {memberId : MemberId} {error : String}
      (hp : x.phase = .preparingMember (some (.ok memberId)))
      (hs : v.getSpace x.auth.spaceUuid = none)
      (h : Puts v session
        { x.hear [.connectionFailed ""] with
          listening := some memberId, phase := .failed error } v') :
      Resumes v serverId session x (v', none)
  | joined {v' : Server} {memberId : MemberId} {space : Space}
      (hp : x.phase = .preparingMember (some (.ok memberId)))
      (hs : v.getSpace x.auth.spaceUuid = some space)
      (h : Puts { v with
          memberIdToChannel := v.memberIdToChannel.set memberId session }
        session
        { x.hear [.spaceInit memberId space.routerRtpCapabilities
            (getClientSideSpace space)] with
          listening := some memberId, memberId := some memberId,
          phase := .joined, mirror := v.spaces.get? x.auth.spaceUuid }
        v') : Resumes v serverId session x (v', none)

/-- Every way in which a session can go on. -/
theorem resumes_of_resume {v : Server} {serverId : ServerId}
    {session : SessionId} {x : Session} {p : Server × Option Request}
    (hx : v.sessions.get? session = some x)
    (h : v.resume serverId session x = some p) :
    Resumes v serverId session x p := by
  unfold resume at h
  split at h
  · rename_i e hp
    cases h
    exact .rejected (.inl hp) (.failJoin hx e)
  · rename_i hp
    cases h
    have hemit := Puts.emit hx .connectionSuccessful
    unfold resumeSpace prepareMember
    split
    · rename_i hs
      exact .spacePrepared hp hs (hemit.trans (.setPhase hemit.self _))
    · rename_i hs
      exact .spaceGone hp (Bool.eq_false_of_not_eq_true hs)
        (hemit.trans (.setPhase hemit.self _))
  · rename_i e hp
    cases h
    exact .rejected (.inr hp) (.failJoin hx e)
  · rename_i memberId hp
    cases h
    have hlisten := Puts.modify hx
      fun x => { x with listening := some memberId }
    unfold resumeMember
    dsimp only
    split
    · rename_i hs
      exact .unmirrored hp hs (hlisten.trans (.failJoin hlisten.self _))
    · rename_i space hs
      have hinit := hlisten.trans (.emit hlisten.self
        (.spaceInit memberId space.routerRtpCapabilities
          (getClientSideSpace space)))
      refine .joined hp hs ?_
      have hjoin := hinit.trans (.modify hinit.self fun x' =>
        { x' with
          memberId := some memberId, phase := .joined,
          mirror := v.spaces.get? x.auth.spaceUuid })
      exact ⟨⟨_, rfl⟩, hjoin.self, hjoin.others⟩
  · cases h

/-- Only the session that resumes moves. -/
theorem resume_frame {v : Server} {serverId : ServerId}
    {session : SessionId} {x : Session} {p : Server × Option Request}
    (hx : v.sessions.get? session = some x)
    (hres : v.resume serverId session x = some p) :
    SessionFrame (· = session) v p.1 := by
  cases resumes_of_resume hx hres with
  | rejected _ h => exact h.frame hx rfl
  | spacePrepared _ _ h => exact h.frame hx rfl
  | spaceGone _ _ h => exact h.frame hx rfl
  | unmirrored _ _ h => exact h.frame hx rfl
  | @joined v' memberId space hp hs h =>
      have hreg : SessionFrame (· = session) v { v with
          memberIdToChannel := v.memberIdToChannel.set memberId session } :=
        .of_eq rfl rfl
      exact hreg.trans (h.frame hx rfl)

/-- The close handler of a session that has not joined. -/
theorem close_eq_none {v : Server} {session : SessionId} {x : Session}
    (serverId : ServerId) (hx : v.sessions.get? session = some x)
    (hm : x.memberId = none) :
    Puts v session { x with isOpen := false }
        (v.close serverId session x).1 ∧
      (v.close serverId session x).2 = none := by
  have heq : v.close serverId session x = ({ v with
      sessions := v.sessions.modify session fun x =>
        { x with isOpen := false } }, none) := by
    unfold close
    dsimp only
    split
    · rfl
    · rename_i memberId h
      rw [hm] at h
      cases h
  rw [heq]
  exact ⟨.modify hx fun x => { x with isOpen := false }, rfl⟩

/-- The close handler of a joined session: the member is unregistered, and
its removal requested. -/
theorem close_eq_some {v : Server} {session : SessionId} {x : Session}
    (serverId : ServerId) (hx : v.sessions.get? session = some x)
    {memberId : MemberId} (hm : x.memberId = some memberId) :
    Puts { v with
        memberIdToChannel := v.memberIdToChannel.delete memberId } session
        { x with isOpen := false } (v.close serverId session x).1 ∧
      (v.close serverId session x).2
        = v.deleteMember serverId memberId := by
  have heq : v.close serverId session x = ({ v with
      memberIdToChannel := v.memberIdToChannel.delete memberId
      sessions := v.sessions.modify session fun x =>
        { x with isOpen := false } }, v.deleteMember serverId memberId) := by
    unfold close
    dsimp only
    split
    · rename_i h
      rw [hm] at h
      cases h
    · rename_i memberId' h
      rw [hm] at h
      cases h
      rfl
  have hclose := Puts.modify hx fun x => { x with isOpen := false }
  rw [heq]
  exact ⟨⟨⟨_, rfl⟩, hclose.self, hclose.others⟩, rfl⟩

/-- Closing moves no session. -/
theorem Puts.still {v v' : Server} {session : SessionId} {x x' : Session}
    (p : SessionId → Prop) (h : Puts v session x' v')
    (hx : v.sessions.get? session = some x) (ha : x'.auth = x.auth)
    (hp : x'.phase = x.phase) : SessionFrame p v v' where
  sessionIdGen := (h.frame hx ha).sessionIdGen
  auth := (h.frame hx ha).auth
  standing session' _ := by
    by_cases heq : session' = session
    · rw [heq, h.self, hx, Option.map_some, Option.map_some, ha, hp]
    · rw [h.others session' heq]

/-- A channel that closes moves no session on. -/
theorem close_frame (p : SessionId → Prop) {v : Server}
    (serverId : ServerId) {session : SessionId} {x : Session}
    (hx : v.sessions.get? session = some x) :
    SessionFrame p v (v.close serverId session x).1 := by
  cases hm : x.memberId with
  | none => exact (close_eq_none serverId hx hm).1.still p hx rfl rfl
  | some memberId =>
      have hreg : SessionFrame p v { v with
          memberIdToChannel := v.memberIdToChannel.delete memberId } :=
        .of_eq rfl rfl
      exact hreg.trans
        ((close_eq_some serverId hx hm).1.still p hx rfl rfl)

/-- Nor does an update of the client's own state. -/
theorem updateMemberState_frame (p : SessionId → Prop) (v : Server)
    (session : SessionId) (memberId : MemberId)
    (newState : MemberStateUpdate) (cId : String) :
    SessionFrame p v
      (v.updateMemberState session memberId newState cId) := by
  unfold updateMemberState
  refine SessionFrame.trans ?_ (emit_frame p _ session _)
  cases h : v.updateMember memberId newState with
  | none => exact .refl p v
  | some v' => exact updateMember_frame p h

/-- The session `start` makes, and the request it publishes. -/
theorem start_eq (v : Server) (serverId : ServerId) (auth : Auth) :
    ∃ result sessions, (v.start serverId auth).1
        = { v with sessionIdGen := v.sessionIdGen + 1, sessions } ∧
      (∀ session, sessions.get? session = if session = v.sessionIdGen then
          some { auth, isOpen := true, emitted := [], memberId := none,
                 phase := .preparingSpace result, listening := none,
                 mirror := none }
        else v.sessions.get? session) ∧
      (result = none ∨ result = some (.ok ())) ∧
      ∀ b, (v.start serverId auth).2 = some b → result = none ∧
        b = .subscribeToSpaceRequest serverId auth.spaceUuid
          (.prepareSpace serverId v.sessionIdGen auth.spaceUuid) := by
  have hget : ∀ (x : Session) (f : Session → Session) session,
      ((v.sessions.set v.sessionIdGen x).modify v.sessionIdGen f).get?
        session = if session = v.sessionIdGen then some (f x)
          else v.sessions.get? session := by
    intro x f session
    rw [JsMap.get?_modify, JsMap.get?_set_self, JsMap.get?_set]
    split <;> rfl
  unfold start prepareSpace
  dsimp only
  split
  · exact ⟨some (.ok ()), _, rfl, hget _ _, .inr rfl, fun _ h => by cases h⟩
  · refine ⟨none, _, rfl, hget _ _, .inl rfl, fun b h => ⟨rfl, ?_⟩⟩
    exact (Option.some.inj h).symm

theorem start_memberIdToChannel (v : Server) (serverId : ServerId)
    (auth : Auth) :
    (v.start serverId auth).1.memberIdToChannel = v.memberIdToChannel := by
  obtain ⟨result, sessions, heq, -⟩ := v.start_eq serverId auth
  rw [heq]

/-- Who was there before `start` is there after it. -/
theorem start_old {v : Server} (serverId : ServerId) (auth : Auth)
    {session : SessionId} {x : Session} (hfresh : session < v.sessionIdGen)
    (hx : v.sessions.get? session = some x) :
    (v.start serverId auth).1.sessions.get? session = some x := by
  obtain ⟨result, sessions, heq, hget, -⟩ := v.start_eq serverId auth
  rw [heq]
  show sessions.get? session = some x
  rw [hget, if_neg (Nat.ne_of_lt hfresh), hx]

/-- Who is there after `start` was there before, or has just connected. -/
theorem start_sessions {v : Server} {serverId : ServerId} {auth : Auth}
    {session : SessionId} {x : Session}
    (hx : (v.start serverId auth).1.sessions.get? session = some x) :
    v.sessions.get? session = some x ∨ ∃ result,
      x = { auth, isOpen := true, emitted := [], memberId := none,
            phase := .preparingSpace result, listening := none,
            mirror := none } := by
  obtain ⟨result, sessions, heq, hget, -⟩ := v.start_eq serverId auth
  rw [heq] at hx
  have hx : sessions.get? session = some x := hx
  rw [hget] at hx
  split at hx
  · exact .inr ⟨result, (Option.some.inj hx).symm⟩
  · exact .inl hx

end Server

end Twolk.Signaling
