/-
  Twolk.Signaling.Convergence
  ───────────────────────────
  **MUTE STATE CONVERGES.**

  The flag of a mirrored member is written by the updates of its own session
  and by nothing else (`callback_mutedOf`).  So once a client has taken in
  its snapshot, its own flag is the mirror's flag after the updates on their
  way (`Tuned`), and every other client of the space has the mirror's flag
  as soon as it has received all events.

  Main result: `mute_converges`.
-/
import Twolk.Signaling.Clients

namespace Twolk.Signaling

open Twolk.Lib Coordinator

namespace Server

/-! ## §1. The flag in the mirror. -/

variable {v v' : Server}

/-- The flags depend on the members and their records only. -/
theorem mutedOf_congr (members : v'.members = v.members)
    (spaceHeap : v'.spaceHeap = v.spaceHeap) (m : MemberId) :
    v'.mutedOf m = v.mutedOf m := by
  unfold mutedOf
  rw [members, spaceHeap]

/-- One mirrored space has changed, but not for `m`. -/
theorem mutedOf_modify (ref : SpaceRef) (f : Space → Space) {m : MemberId}
    (members : v'.members.get? m = v.members.get? m)
    (spaceHeap : v'.spaceHeap = v.spaceHeap.modify ref f)
    (hf : ∀ space, (f space).members.get? m = space.members.get? m) :
    v'.mutedOf m = v.mutedOf m := by
  unfold mutedOf
  rw [members, spaceHeap]
  cases v.members.get? m with
  | none => rfl
  | some ref' =>
      rw [Option.bind_some, Option.bind_some, JsMap.get?_modify]
      by_cases heq : ref' = ref
      · rw [if_pos heq, heq]
        cases v.spaceHeap.get? ref with
        | none => rfl
        | some space =>
            show ((f space).members.get? m).map _ = _
            rw [hf]
            rfl
      · rw [if_neg heq]

theorem setPhase_mutedOf (v : Server) (session : SessionId) (phase : Phase)
    (m : MemberId) : (v.setPhase session phase).mutedOf m = v.mutedOf m :=
  rfl

theorem broadcast_mutedOf (v : Server) (ids : List MemberId)
    (event : ServerToClientEvent) (m : MemberId) :
    (v.broadcast ids event).mutedOf m = v.mutedOf m :=
  mutedOf_congr (broadcast_mirrorFrame v ids event).members
    (broadcast_heap v ids event) m

/-- **An update writes the flag of its member, if it has one.** -/
theorem updateMember_mutedOf {memberId : MemberId}
    {update : MemberStateUpdate}
    (h : v.updateMember memberId update = some v') (m : MemberId) :
    v'.mutedOf m = if m = memberId then
      (v.mutedOf m).map (update.isMuted.getD ·) else v.mutedOf m := by
  obtain ⟨ref, space, member, href, hspace, hmember, rfl⟩ :=
    updateMember_eq h
  rw [broadcast_mutedOf]
  by_cases hm : m = memberId
  · rw [if_pos hm, hm]
    unfold mutedOf
    dsimp only
    rw [href, Option.bind_some, Option.bind_some, JsMap.get?_modify_self,
      hspace, Option.map_some, Option.bind_some, Option.bind_some,
      JsMap.get?_modify_self, hmember]
    rfl
  · rw [if_neg hm]
    refine mutedOf_modify ref (fun s =>
      { s with
        members := s.members.modify memberId fun m =>
          { m with state := member.state.merge update } }) rfl rfl
      fun s => ?_
    exact JsMap.get?_modify_of_ne _ _ hm

/-- An update of a member that is there is taken in. -/
theorem updateMember_of_muted {memberId : MemberId} {isMuted : Bool}
    (h : v.mutedOf memberId = some isMuted) (update : MemberStateUpdate) :
    ∃ v', v.updateMember memberId update = some v' := by
  obtain ⟨ref, href, h⟩ := Option.bind_eq_some_iff.mp h
  obtain ⟨space, hspace, h⟩ := Option.bind_eq_some_iff.mp h
  obtain ⟨member, hmember, -⟩ := Option.map_eq_some_iff.mp h
  unfold updateMember
  rw [href, Option.bind_some, hspace, Option.bind_some, hmember]
  exact ⟨_, rfl⟩

theorem updateMemberState_mutedOf (v : Server) (session : SessionId)
    (memberId : MemberId) (update : MemberStateUpdate) (cId : String)
    (m : MemberId) :
    (v.updateMemberState session memberId update cId).mutedOf m
      = if m = memberId then (v.mutedOf m).map (update.isMuted.getD ·)
        else v.mutedOf m := by
  show ((v.updateMember memberId update).getD v).mutedOf m = _
  cases hu : v.updateMember memberId update with
  | some v' =>
      rw [Option.getD_some]
      exact updateMember_mutedOf hu m
  | none =>
      rw [Option.getD_none]
      by_cases hm : m = memberId
      · rw [if_pos hm]
        cases hmuted : v.mutedOf m with
        | none => rfl
        | some isMuted =>
            rw [hm] at hmuted
            obtain ⟨v', hv'⟩ := updateMember_of_muted hmuted update
            rw [hu] at hv'
            cases hv'
      · rw [if_neg hm]

/-- A member in its owning space has a flag. -/
theorem Current.muted {m : MemberId} {session : SessionId} {x : Session}
    {ref : SpaceRef} (h : v.Current m session x ref)
    (hm : m ∈ v.membersOf ref) : ∃ isMuted, v.mutedOf m = some isMuted := by
  obtain ⟨space, hspace, hin⟩ := mem_membersOf.mp hm
  obtain ⟨member, hmember⟩ := JsMap.has_iff.mp (JsMap.mem_keys.mp hin)
  refine ⟨member.state.isMuted, ?_⟩
  unfold mutedOf
  rw [h.owning, Option.bind_some, hspace, Option.bind_some, hmember]
  rfl

/-- By induction on the updates; none of the coordinator's has the flag. -/
theorem hears_mutedOf (heard : List (Out Publisher)) (m : MemberId) :
    ∀ v : Server, (heard.foldl System.hears v).mutedOf m = v.mutedOf m := by
  induction heard with
  | nil => exact fun v => rfl
  | cons o heard ih =>
      intro v
      rw [List.foldl_cons, ih]
      cases o with
      | spaceUpdate uuid update =>
          show (v.onSpaceUpdate uuid update).mutedOf m = _
          unfold onSpaceUpdate
          split
          · split
            · exact broadcast_mutedOf v [_] _ m
            · rfl
          · split
            · cases hu : v.updateMember _ _ with
              | none => rfl
              | some v' =>
                  show v'.mutedOf m = _
                  rw [updateMember_mutedOf hu]
                  split
                  · cases v.mutedOf m <;> rfl
                  · rfl
            · rfl
      | _ => rfl

/-- **A callback leaves the flag of a registered member alone.** -/
theorem callback_mutedOf {c : Coord Publisher} (hs : Sound c v)
    (hI : MemberWF c) {m : MemberId} {session : SessionId} {x : Session}
    {ref : SpaceRef} (hcur : v.Current m session x ref)
    {serverId : ServerId} (hc : System.Callback c serverId v v') :
    v'.mutedOf m = v.mutedOf m := by
  obtain ⟨y, hy, -, hid⟩ := hs.channels.registered m session hcur.registered
  rw [hcur.session] at hy
  cases hy
  have hspace := hs.owner _ _ _
    (System.held_of_memberId hs.channels hcur.session hid)
  cases hc with
  | relayed hr =>
      cases hr with
      | heard heard => exact hears_mutedOf heard m v
      | acked session' he heard =>
          rw [hears_mutedOf]
          exact mutedOf_congr rfl rfl m
      | rejected session' error => exact mutedOf_congr rfl rfl m
      | @spacePrepared session' x' space caps hx hp hsp =>
          rw [onSpacePrepared_eq, setPhase_mutedOf]
          split
          · rfl
          · rename_i hnot
            -- the new mirror is of another space
            obtain ⟨-, -, -, -, hmembers⟩ := hs.mirrored.snapshot
              x'.auth.spaceUuid ⟨x'.auth.spaceUuid, space.data,
                SpaceService.clientSideMembers c space⟩ caps
            have hother : m ∉ (SpaceService.clientSideMembers c
                space).map ClientSideMember.id := by
              intro hin
              have hin := (mem_clientSideMembers hI hsp).mp hin
              have hsame := ((hI.mem _ m).mp hin).2
              rw [hspace] at hsame
              apply hnot
              rw [← Option.some.inj hsame]
              exact JsMap.has_iff.mpr ⟨ref, hcur.stored⟩
            have hlt := hs.mirrored.fresh ref (by
              rw [hs.mirrored.spaces _ _ hcur.stored]
              simp)
            have hne := Nat.ne_of_lt hlt
            unfold mutedOf
            rw [hmembers m, if_neg hother, hcur.owning, Option.bind_some,
              Option.bind_some, addMembers_heap hne]
            show ((v.spaceHeap.set v.spaceRefGen _).get? ref).bind _ = _
            rw [JsMap.get?_set_of_ne _ _ hne]
      | spaceDeleted uuid => exact mutedOf_congr rfl rfl m
  | @memberPrepared session' x' hx hp =>
      have hne : m ≠ c.memberIdGen := by
        rintro rfl
        rw [hI.spaceOf_new] at hspace
        cases hspace
      unfold onMemberPrepared
      dsimp only
      rw [setPhase_mutedOf]
      split
      · rfl
      · split
        · rfl
        · rename_i r hr
          rw [broadcast_mutedOf]
          refine mutedOf_modify r (fun s =>
            { s with
              members := s.members.set c.memberIdGen
                ⟨x'.auth.memberData, x'.auth.joinState⟩ }) ?_ rfl ?_
          · exact JsMap.get?_set_of_ne _ _ hne
          · exact fun s => JsMap.get?_set_of_ne _ _ hne
  | @memberDeleted memberId hm =>
      have hne : m ≠ memberId := by
        rintro rfl
        rw [hcur.registered] at hm
        cases hm
      cases hr : v.members.get? memberId with
      | none =>
          unfold onMemberDeleted
          rw [hr]
      | some r =>
          rw [onMemberDeleted_eq serverId hr, broadcast_mutedOf]
          unfold removeMember
          rw [hr]
          refine mutedOf_modify r (fun s =>
            { s with members := s.members.delete memberId }) ?_ rfl ?_
          · show (v.members.delete memberId).get? m = _
            rw [JsMap.get?_delete, if_neg hne]
          · intro s
            rw [JsMap.get?_delete, if_neg hne]

/-- A server function writes no flag, unless it is the update of a
client. -/
theorem call_mutedOf {serverId : ServerId} {a : SystemAction}
    {p : Server × Option Request} (hc : System.ServerCall serverId v a p)
    (ha : a.ofClient = false) (m : MemberId) :
    p.1.mutedOf m = v.mutedOf m := by
  refine mutedOf_congr (call_mirrorFrame hc).members ?_ m
  apply call_heap hc
  rintro session newState cId rfl
  cases ha

end Server

/-! ## §2. One connection. -/

theorem lastMuted_append (isMuted : Bool) (l l' : List (Option Bool)) :
    lastMuted isMuted (l ++ l') = lastMuted (lastMuted isMuted l) l' :=
  List.foldl_append

namespace Connection

/-- The client has applied and sent updates. -/
structure Updated (conn conn' : Connection)
    (applied sends : List (Option Bool)) : Prop where
  space : ∃ p, conn'.space = conn.space.withProducer p
  received : conn'.received = conn.received
  isMuted : conn'.isMuted = lastMuted conn.isMuted applied
  sent : conn'.sent = conn.sent ++ sends

theorem Updated.trans {conn conn' conn'' : Connection}
    {applied applied' sends sends' : List (Option Bool)}
    (h : Updated conn conn' applied sends)
    (h' : Updated conn' conn'' applied' sends') :
    Updated conn conn'' (applied ++ applied') (sends ++ sends') where
  space := by
    obtain ⟨p, hp⟩ := h.space
    obtain ⟨p', hp'⟩ := h'.space
    refine ⟨p', ?_⟩
    rw [hp', hp]
    rfl
  received := h'.received.trans h.received
  isMuted := by
    rw [h'.isMuted, h.isMuted, lastMuted_append]
  sent := by
    rw [h'.sent, h.sent, List.append_assoc]

mutual

/-- A call applies its update first and sends it last, by induction on the
calls inside. -/
theorem updateProducerMemberState_updated (conn : Connection) :
    ∀ c : UpdateCall, Updated conn (conn.updateProducerMemberState c)
      c.applied c.sends
  | .call isMuted nested => by
      have hfirst : Updated conn { conn with
          space := conn.space.updateProducerState ⟨isMuted, none⟩ }
          [isMuted] [] :=
        ⟨⟨_, rfl⟩, rfl, rfl, (List.append_nil _).symm⟩
      have hall := hfirst.trans (updateAll_updated _ nested)
      unfold updateProducerMemberState UpdateCall.applied UpdateCall.sends
      refine ⟨hall.space, hall.received, hall.isMuted, ?_⟩
      show _ ++ [isMuted] = _
      rw [hall.sent, List.nil_append, List.append_assoc]

theorem updateAll_updated (conn : Connection) :
    ∀ calls : List UpdateCall, Updated conn (conn.updateAll calls)
      (UpdateCall.appliedAll calls) (UpdateCall.sendsAll calls)
  | [] => ⟨⟨conn.space.producerMember, rfl⟩, rfl, rfl,
      (List.append_nil _).symm⟩
  | c :: calls => by
      have h := updateProducerMemberState_updated conn c
      exact h.trans (updateAll_updated _ calls)

end

/-- But for its own member, the client has what the events it has received
say. -/
structure Follows (conn : Connection) (x : Session) : Prop where
  received : conn.received ≤ x.emitted.length
  space : ∃ data isMuted p, conn.space
    = ((Web.Space.initial data isMuted).receiveAll
        (x.emitted.take conn.received)).withProducer p

variable {conn conn' : Connection} {x x' : Session}

theorem Follows.updated (h : conn.Follows x)
    {applied sends : List (Option Bool)}
    (hu : Updated conn conn' applied sends) : conn'.Follows x where
  received := by
    rw [hu.received]
    exact h.received
  space := by
    obtain ⟨data, isMuted, p, hspace⟩ := h.space
    obtain ⟨p', hspace'⟩ := hu.space
    refine ⟨data, isMuted, p', ?_⟩
    rw [hspace', hspace, hu.received]
    rfl

/-- A client that has just connected follows its channel. -/
theorem initial_follows (data : MemberData) (isMuted : Bool)
    (early : List UpdateCall) (hx : x.emitted = []) :
    (initial data isMuted early).Follows x := by
  have hstart : Follows ⟨.initial data isMuted, 0, []⟩ x := by
    refine ⟨Nat.zero_le _, data, isMuted, ⟨data, ⟨isMuted, false⟩⟩, ?_⟩
    rw [hx]
    rfl
  exact hstart.updated (updateAll_updated _ early)

/-- It goes on following when the channel carries more. -/
theorem Follows.grow (h : conn.Follows x) {l : List ServerToClientEvent}
    (hx : x'.emitted = x.emitted ++ l) : conn.Follows x' where
  received := by
    rw [hx, List.length_append]
    exact Nat.le_add_right_of_le h.received
  space := by
    obtain ⟨data, isMuted, p, hspace⟩ := h.space
    refine ⟨data, isMuted, p, ?_⟩
    rw [hx, List.take_append_of_le_length h.received]
    exact hspace

/-- It does when the next event arrives. -/
theorem Follows.receive (h : conn.Follows x) {event : ServerToClientEvent}
    (he : x.emitted[conn.received]? = some event) :
    (conn.receive event).Follows x := by
  obtain ⟨hlt, hget⟩ := List.getElem?_eq_some_iff.mp he
  obtain ⟨data, isMuted, p, hspace⟩ := h.space
  obtain ⟨p', hreceive⟩ := Web.Space.receive_withProducer
    ((Web.Space.initial data isMuted).receiveAll
      (x.emitted.take conn.received)) p event
  refine ⟨hlt, data, isMuted, p', ?_⟩
  show conn.space.receive event = _
  rw [hspace, hreceive]
  show _ = ((Web.Space.initial data isMuted).receiveAll
    (x.emitted.take (conn.received + 1))).withProducer p'
  rw [List.take_add_one, he]
  show _ = (Web.Space.withProducer (List.foldl _ _ (_ ++ [event])) p')
  rw [List.foldl_append]
  rfl

/-- A client that was sent no snapshot has received none. -/
theorem Follows.not_received (h : conn.Follows x)
    (hx : ∀ e ∈ x.emitted, e.kind ≠ .spaceInit) :
    conn.space.spaceInitReceived = false := by
  obtain ⟨data, isMuted, p, hspace⟩ := h.space
  refine (Bool.not_eq_true _).mp fun hr => ?_
  rw [hspace] at hr
  rcases Web.Space.spaceInit_of_received _ _ hr with hr | ⟨e, he, hk⟩
  · cases hr
  · exact hx e (List.mem_of_mem_take he) hk

/-- A client that has received everything sees the mirror. -/
theorem Follows.view (h : conn.Follows x)
    (hall : conn.received = x.emitted.length) :
    ∃ data isMuted p,
      conn.space = (x.view data isMuted).withProducer p := by
  obtain ⟨data, isMuted, p, hspace⟩ := h.space
  rw [hall, List.take_length] at hspace
  exact ⟨data, isMuted, p, hspace⟩

end Connection

/-! ## §3. The connections of one server. -/

namespace Server

/-- Channels carry more, sessions are closed, and sessions join. -/
def Grows (v v' : Server) : Prop :=
  ∀ session x', v'.sessions.get? session = some x' →
    ∃ x l, v.sessions.get? session = some x ∧
      x'.emitted = x.emitted ++ l ∧ (x'.isOpen = true → x.isOpen = true) ∧
      (x'.memberId = x.memberId ∨ x.memberId = none)

variable {v v' : Server}

theorem Keeps.grows (hk : Keeps v v') : Grows v v' := by
  intro session x' hx'
  obtain ⟨x, hx, hxy⟩ := hk.before hx'
  obtain ⟨l, hl, -⟩ := hxy.emitted
  refine ⟨x, l, hx, hl, fun ho => ?_, .inl hxy.memberId⟩
  rw [hxy.rest] at ho
  exact ho

/-- Writing one session only adds to what channels carry. -/
theorem Puts.grows {u : Server} {session : SessionId} {x x' : Session}
    (hp : Puts u session x' v') (hu : u.sessions = v.sessions)
    (hx : v.sessions.get? session = some x)
    (he : ∃ l, x'.emitted = x.emitted ++ l)
    (ho : x'.isOpen = true → x.isOpen = true)
    (hid : x'.memberId = x.memberId ∨ x.memberId = none) : Grows v v' := by
  intro session' y hy
  by_cases heq : session' = session
  · rw [heq, hp.self] at hy
    cases hy
    obtain ⟨l, hl⟩ := he
    exact ⟨x, l, heq ▸ hx, hl, ho, hid⟩
  · rw [hp.others session' heq, hu] at hy
    exact ⟨y, [], hy, (List.append_nil _).symm, id, .inl rfl⟩

theorem call_grows (hchannels : v.Channels) {serverId : ServerId}
    {a : SystemAction} {p : Server × Option Request}
    (hc : System.ServerCall serverId v a p) (ha : a.ofClient = false) :
    Grows v p.1 := by
  cases hc with
  | connect | updateMemberState => cases ha
  | @resume session x _ hx hres =>
      cases resumes_of_resume hx hres with
      | rejected _ hputs =>
          exact hputs.grows rfl hx ⟨_, rfl⟩ id (.inl rfl)
      | spacePrepared _ _ hputs =>
          exact hputs.grows rfl hx ⟨_, rfl⟩ id (.inl rfl)
      | spaceGone _ _ hputs =>
          exact hputs.grows rfl hx ⟨_, rfl⟩ id (.inl rfl)
      | unmirrored _ _ hputs =>
          exact hputs.grows rfl hx ⟨_, rfl⟩ id (.inl rfl)
      | joined hp _ hputs =>
          refine hputs.grows ?_ hx ⟨_, rfl⟩ id (.inr ?_)
          · rfl
          · apply (hchannels.orderly session x hx).memberId_eq_none
            simp [Session.stage, hp]
  | @close session x hx ho =>
      have hnil : x.emitted = x.emitted ++ [] := (List.append_nil _).symm
      cases hid : x.memberId with
      | none =>
          exact (close_eq_none serverId hx hid).1.grows rfl hx ⟨[], hnil⟩
            (fun _ => ho) (.inl rfl)
      | some memberId =>
          refine (close_eq_some serverId hx hid).1.grows ?_ hx ⟨[], hnil⟩
            (fun _ => ho) (.inl rfl)
          rfl
  | forward =>
      exact fun session x hx =>
        ⟨x, [], hx, (List.append_nil _).symm, id, .inl rfl⟩

/-- A joined session that is open has a client whose flag is the mirror's,
after the updates on their way. -/
def Tuned (v : Server) (session : SessionId) (conn : Connection) : Prop :=
  ∀ x m, v.sessions.get? session = some x → x.isOpen = true →
    x.memberId = some m → conn.space.spaceInitReceived = true →
    ∃ isMuted, v.mutedOf m = some isMuted ∧
      conn.isMuted = lastMuted isMuted conn.sent

/-- Every session has a client, in step with it. -/
def Serves (conns : SessionId → Option Connection) (v : Server) : Prop :=
  ∀ session x, v.sessions.get? session = some x →
    ∃ conn, conns session = some conn ∧ conn.Follows x ∧
      v.Tuned session conn

variable {conns : SessionId → Option Connection}

/-- The server has moved on, without writing a flag of a joined session. -/
theorem Serves.grows (h : v.Serves conns) (hintro : System.Introduced v)
    (hg : Grows v v')
    (hmuted : ∀ session x m, v.sessions.get? session = some x →
      x.isOpen = true → x.memberId = some m →
      v'.mutedOf m = v.mutedOf m) : v'.Serves conns := by
  intro session x' hx'
  obtain ⟨x, l, hx, hl, ho, hid⟩ := hg session x' hx'
  obtain ⟨conn, hconn, hfollows, htuned⟩ := h session x hx
  refine ⟨conn, hconn, hfollows.grow hl, fun y m hy hopen hm hr => ?_⟩
  rw [hx'] at hy
  cases hy
  rcases hid with hid | hnone
  · rw [hid] at hm
    rw [hmuted session x m hx (ho hopen) hm]
    exact htuned x m hx (ho hopen) hm hr
  · -- it has not been sent a snapshot before
    have hnot := hfollows.not_received fun e he hk => by
      cases e with
      | spaceInit id caps clientSideSpace =>
          have hid := (hintro session x id caps clientSideSpace hx he).1
          rw [hnone] at hid
          cases hid
      | _ => cases hk
    rw [hnot] at hr
    cases hr

/-- The first update on its way has reached the mirror. -/
theorem Serves.updateMember (h : v.Serves conns) (hchannels : v.Channels)
    (hk : Keeps v v') {session : SessionId} {memberId : MemberId}
    {conn : Connection} {isMuted : Option Bool} {sent : List (Option Bool)}
    (hconn : conns session = some conn) (hsent : conn.sent = isMuted :: sent)
    (hlisten : ∀ x, v.sessions.get? session = some x →
      x.listening = some memberId)
    (hone : ∀ session' x, v.sessions.get? session' = some x →
      x.memberId = some memberId → session' = session)
    (hmuted : ∀ m, v'.mutedOf m = if m = memberId then
      (v.mutedOf m).map (isMuted.getD ·) else v.mutedOf m)
    {conns' : SessionId → Option Connection}
    (hself : conns' session = some { conn with sent })
    (hothers : ∀ session', session' ≠ session →
      conns' session' = conns session') : v'.Serves conns' := by
  -- the sessions are the same ones, whose channels have grown
  intro session' x' hx'
  obtain ⟨x, hx, hxy⟩ := hk.before hx'
  obtain ⟨l, hl, -⟩ := hxy.emitted
  obtain ⟨conn', hconn', hfollows, htuned⟩ := h session' x hx
  have hopen : x'.isOpen = true → x.isOpen = true := by
    intro ho
    rwa [hxy.rest] at ho
  -- the client of the member: what it sent is merged into the mirror now
  by_cases heq : session' = session
  · subst heq
    rw [hconn] at hconn'
    cases hconn'
    refine ⟨{ conn with sent }, hself, ?_, fun y m hy ho hm hr => ?_⟩
    · have hgrown := hfollows.grow hl
      exact ⟨hgrown.received, hgrown.space⟩
    · rw [hx'] at hy
      cases hy
      rw [hxy.memberId] at hm
      have hid := ((hchannels.orderly session' x hx).joined hm).1
      rw [hlisten x hx] at hid
      cases hid
      obtain ⟨flag, hflag, hown⟩ := htuned x memberId hx (hopen ho) hm hr
      refine ⟨isMuted.getD flag, ?_, ?_⟩
      · rw [hmuted, if_pos rfl, hflag]
        rfl
      · show conn.isMuted = _
        rw [hown, hsent]
        rfl
  -- the others have sent nothing, and their flag is as it was
  · rw [hothers session' heq]
    refine ⟨conn', hconn', hfollows.grow hl, fun y m hy ho hm hr => ?_⟩
    rw [hx'] at hy
    cases hy
    rw [hxy.memberId] at hm
    have hne : m ≠ memberId := fun h => heq (hone session' x hx (h ▸ hm))
    rw [hmuted, if_neg hne]
    exact htuned x m hx (hopen ho) hm hr

/-- A server goes on serving when the client of one session has changed. -/
theorem Serves.update {conns' : SessionId → Option Connection}
    (h : v.Serves conns) {session : SessionId} {conn' : Connection}
    (hself : conns' session = some conn')
    (hothers : ∀ session', session' ≠ session →
      conns' session' = conns session')
    (hnew : ∀ x conn, v.sessions.get? session = some x →
      conns session = some conn → conn.Follows x → v.Tuned session conn →
      conn'.Follows x ∧ v.Tuned session conn') : v.Serves conns' := by
  intro session' x hx
  by_cases heq : session' = session
  · subst heq
    obtain ⟨conn, hconn, hfollows, htuned⟩ := h session' x hx
    exact ⟨conn', hself, hnew x conn hx hconn hfollows htuned⟩
  · rw [hothers session' heq]
    exact h session' x hx

end Server

/-! ## §4. The system without its clients. -/

namespace System

/-- The clients of one server. -/
def connectionsOf (connections : JsMap ChannelId Connection) (S : ServerId) :
    SessionId → Option Connection :=
  fun session => connections.get? (S, session)

/-- Every session of every server has a client, in step with it. -/
def Serving (s : System) (connections : JsMap ChannelId Connection) : Prop :=
  ∀ S v, s.servers.get? S = some v → v.Serves (connectionsOf connections S)

/-- `removesDeserted`, and no client acts. -/
def clientsWait : Guard System SystemAction (Out Publisher) :=
  fun tr s a => removesDeserted tr s a ∧ a.ofClient = false

/-- A point of a run, with the clients it has. -/
def Tracked (connections : JsMap ChannelId Connection) (s : System)
    (reqs : List Request) : Prop :=
  Point removesDeserted s reqs ∧ s.Serving connections

/-- A joined session that is open is registered with the stored mirror. -/
theorem Point.current_of_open {s : System} {reqs : List Request}
    (h : Point removesDeserted s reqs) {S : ServerId} {v : Server}
    (hv : s.servers.get? S = some v) {session : SessionId} {x : Session}
    {m : MemberId} (hx : v.sessions.get? session = some x)
    (ho : x.isOpen = true) (hm : x.memberId = some m) :
    ∃ ref, v.Current m session x ref :=
  h.of_removesDeserted.current hv
    ⟨h.attached S v hv session x m hx ho hm, hx⟩

/-- A move of the coordinator keeps the clients in step. -/
theorem Tracked.moved {connections : JsMap ChannelId Connection}
    {sync : Bool} {s s' : System} {b : Request} {reqs reqs' : List Request}
    (h : Tracked connections s reqs) (hready : Ready s sync b)
    (hm : Move s b s' reqs') : s'.Serving connections := by
  intro S v' hv'
  obtain ⟨hpoint, hserving⟩ := h
  obtain ⟨v, hv, hcall⟩ := hm.callback hready hv'
  have hsound := hpoint.sound hv
  have hkeeps := Server.callback_keeps hsound.channels.registered hcall
  refine (hserving S v hv).grows (hpoint.introduced S v hv) hkeeps.grows
    fun session x m hx ho hid => ?_
  obtain ⟨ref, hcur⟩ := hpoint.current_of_open hv hx ho hid
  exact Server.callback_mutedOf hsound
    (coordWF_reachable hpoint.reachable).member hcur hcall

theorem Tracked.published (connections : JsMap ChannelId Connection) :
    Published (Tracked connections) where
  linked h := h.1.linked
  reachable h := h.1.reachable
  published h hready hm ha :=
    ⟨h.1.published hready hm ha, h.moved hready hm⟩

/-- **What happens without the clients keeps them in step.** -/
theorem Tracked.closed (connections : JsMap ChannelId Connection) :
    Closed clientsWait (Tracked connections) where
  toPublished := Tracked.published connections
  flushed out h := ⟨h.1.flushed out, h.2⟩
  started h _ hn := by
    refine ⟨h.1.started hn, JsMap.forall_set h.2 ?_⟩
    exact fun _ _ hx => nomatch hx
  called h hg hv hc := by
    obtain ⟨hpoint, hserving⟩ := h
    refine ⟨hpoint.called hg.1 hv hc, JsMap.forall_set hserving ?_⟩
    refine (hserving _ _ hv).grows (hpoint.introduced _ _ hv)
      (Server.call_grows (hpoint.channels hv) hc hg.2)
      fun session x m _ _ _ => ?_
    exact Server.call_mutedOf hc hg.2 m
  coordinated h hg hready hm ha :=
    ⟨h.1.coordinated hg.1 hready hm ha, h.moved hready hm⟩

/-! ## §5. Steps of the clients. -/

theorem connectionsOf_set (connections : JsMap ChannelId Connection)
    (S S' : ServerId) (session session' : SessionId) (conn : Connection) :
    connectionsOf (connections.set (S, session) conn) S' session'
      = if S' = S ∧ session' = session then some conn
        else connectionsOf connections S' session' := by
  unfold connectionsOf
  rw [JsMap.get?_set]
  simp only [Prod.mk.injEq]

/-- So do all servers. -/
theorem Serving.update {connections : JsMap ChannelId Connection}
    {s : System} (h : s.Serving connections) {S : ServerId}
    {session : SessionId} {conn' : Connection}
    (hnew : ∀ v x conn, s.servers.get? S = some v →
      v.sessions.get? session = some x →
      connections.get? (S, session) = some conn → conn.Follows x →
      v.Tuned session conn → conn'.Follows x ∧ v.Tuned session conn') :
    s.Serving (connections.set (S, session) conn') := by
  intro S' v hv session' x hx
  obtain ⟨conn, hconn, hfollows, htuned⟩ := h S' v hv session' x hx
  rw [connectionsOf_set]
  by_cases heq : S' = S ∧ session' = session
  · rw [if_pos heq]
    obtain ⟨rfl, rfl⟩ := heq
    exact ⟨conn', rfl, hnew v x conn hv hx hconn hfollows htuned⟩
  · rw [if_neg heq]
    exact ⟨conn, hconn, hfollows, htuned⟩

section Clients

variable {connections : JsMap ChannelId Connection} {s : System}
  {S : ServerId} {session : SessionId} {conn : Connection}

/-- A client that connects is tracked from then on. -/
theorem Tracked.connected (h : Tracked connections s []) {s' : System}
    {obs : List (Out Publisher)} {v : Server} {auth : Auth}
    (hv : s.servers.get? S = some v)
    (hs : machine.step s (.connect S auth) = some (s', obs))
    (hconn : ∀ x : Session, x.emitted = [] → conn.Follows x) :
    Tracked (connections.set (S, v.sessionIdGen) conn) s' [] := by
  -- the connect is a call of the server, and what it publishes
  obtain ⟨hpoint, hserving⟩ := h
  obtain ⟨t, ht, heq⟩ := Option.map_eq_some_iff.mp hs
  cases heq
  have hany : removesDeserted ([] : List (Out Publisher)) s
    (.connect S auth) := trivial
  cases act_acts ht with
  | @called _ u _ p _ hu hc hpub =>
      cases hc with
      | connect =>
          obtain rfl : v = u := Option.some.inj (hv.symm.trans hu)
          refine (Tracked.published _).publish (hpoint.linked.flushed [])
            hv (.connect auth) ⟨(hpoint.called hany hv
              (.connect auth)).flushed [], ?_⟩ hpub
          obtain ⟨result, table, heq, hget, -⟩ := v.start_eq S auth
          have hfresh := hpoint.linked.fresh S v
          -- the old sessions keep their clients, as the new number is fresh
          have hold : ∀ S' u, s.servers.get? S' = some u →
              u.Serves (connectionsOf
                (connections.set (S, v.sessionIdGen) conn) S') := by
            intro S' u hu session x hx
            have hne : (S', session) ≠ (S, v.sessionIdGen) := by
              intro heq
              cases heq
              rw [hv] at hu
              cases hu
              exact Nat.lt_irrefl _ (hfresh _ x hv hx)
            unfold connectionsOf
            rw [JsMap.get?_set_of_ne _ _ hne]
            exact hserving S' u hu session x hx
          refine JsMap.forall_set hold ?_
          rw [heq]
          intro session x hx
          have hx : table.get? session = some x := hx
          rw [hget] at hx
          -- the new session has emitted nothing, so nothing was received
          by_cases hs : session = v.sessionIdGen
          · rw [if_pos hs] at hx
            have hempty : x.emitted = [] := by
              rw [← Option.some.inj hx]
            have hfollows := hconn x hempty
            have hnot := hfollows.not_received fun e he => by
              rw [hempty] at he
              cases he
            subst hs
            refine ⟨conn, JsMap.get?_set_self .., hfollows, ?_⟩
            intro y m _ _ _ hr
            rw [hnot] at hr
            cases hr
          -- the others are as they were
          · rw [if_neg hs] at hx
            obtain ⟨conn', hconn', hfollows, htuned⟩ := hold S v hv session x hx
            refine ⟨conn', hconn', hfollows, fun y m hy => ?_⟩
            have hy : table.get? session = some y := hy
            rw [hget, if_neg hs] at hy
            exact htuned y m hy

/-- The application calls `updateProducerMemberState`. -/
theorem Tracked.updated (h : Tracked connections s [])
    (hconn : connections.get? (S, session) = some conn) {c : UpdateCall}
    (hg : conn.space.spaceInitReceived = true →
      lastMuted conn.isMuted c.sends = lastMuted conn.isMuted c.applied) :
    Tracked (connections.set (S, session)
      (conn.updateProducerMemberState c)) s [] := by
  refine ⟨h.1, h.2.update fun v x conn₁ hv hx hconn₁ hfollows htuned => ?_⟩
  rw [hconn] at hconn₁
  cases hconn₁
  have hu := conn.updateProducerMemberState_updated c
  refine ⟨hfollows.updated hu, fun y m hy ho hm hr => ?_⟩
  obtain ⟨p, hp⟩ := hu.space
  rw [hp] at hr
  obtain ⟨isMuted, hmuted, hown⟩ := htuned y m hy ho hm hr
  refine ⟨isMuted, hmuted, ?_⟩
  rw [hu.isMuted, hu.sent, ← hg hr, lastMuted_append, ← hown]

/-- It is when the next event reaches it. -/
theorem Tracked.received (h : Tracked connections s []) {v : Server}
    {x : Session} {event : ServerToClientEvent}
    (hv : s.servers.get? S = some v)
    (hx : v.sessions.get? session = some x)
    (hconn : connections.get? (S, session) = some conn)
    (he : x.emitted[conn.received]? = some event)
    (hg : conn.space.spaceInitReceived = false →
      ∀ id caps clientSideSpace, event = .spaceInit id caps clientSideSpace →
        ∀ isMuted ∈ v.mutedOf id, ∀ member ∈ clientSideSpace.members,
          member.id = id → lastMuted isMuted conn.sent
            = member.state.isMuted) :
    Tracked (connections.set (S, session) (conn.receive event)) s [] := by
  -- only this client changes, by the event it receives
  obtain ⟨hpoint, hserving⟩ := h
  refine ⟨hpoint, hserving.update
    fun v₁ x₁ conn₁ hv₁ hx₁ hconn₁ hfollows htuned => ?_⟩
  rw [hv] at hv₁
  cases hv₁
  rw [hx] at hx₁
  cases hx₁
  rw [hconn] at hconn₁
  cases hconn₁
  refine ⟨hfollows.receive he, fun y m hy ho hm hr => ?_⟩
  rw [hx] at hy
  cases hy
  have hr : (conn.space.receive event).spaceInitReceived = true := hr
  show ∃ isMuted, v.mutedOf m = some isMuted ∧
    (conn.space.receive event).producerMember.state.isMuted
      = lastMuted isMuted conn.sent
  -- either the event is the first snapshot, or it leaves the own flag alone
  by_cases hfirst : conn.space.spaceInitReceived = false ∧
      event.kind = .spaceInit
  · -- the snapshot overwrites the flag
    obtain ⟨hnew, hkind⟩ := hfirst
    cases event with
    | spaceInit id caps clientSideSpace =>
        obtain ⟨hid, hin⟩ := hpoint.introduced S v hv session x id caps
          clientSideSpace hx (List.mem_of_getElem? he)
        rw [hm] at hid
        cases hid
        obtain ⟨member, hmember, hself, hflag⟩ :=
          conn.space.receive_spaceInit hnew m caps clientSideSpace hin
        -- the mirror has the flag, which the guard compares with the snapshot
        obtain ⟨ref, hcur⟩ := hpoint.current_of_open hv hx ho hm
        obtain ⟨isMuted, hmuted⟩ := hcur.muted
          (hpoint.registered_mirrored hv ⟨hcur.registered, hx⟩ hcur.stored)
        refine ⟨isMuted, hmuted, ?_⟩
        rw [hflag]
        exact (hg hnew m caps clientSideSpace rfl isMuted hmuted member
          hmember hself).symm
    | _ => cases hkind
  · have hkept : conn.space.spaceInitReceived = true ∨
        event.kind ≠ .spaceInit := by
      by_cases hnew : conn.space.spaceInitReceived = false
      · exact .inr fun hk => hfirst ⟨hnew, hk⟩
      · exact .inl ((Bool.not_eq_false _).mp hnew)
    obtain ⟨hrecv, hflag⟩ := conn.space.receive_isMuted hkept
    rw [hrecv] at hr
    rw [hflag]
    exact htuned x m hx ho hm hr

/-- The first update on its way reaches the server. -/
theorem Tracked.sent (h : Tracked connections s [])
    (hconn : connections.get? (S, session) = some conn)
    {isMuted : Option Bool} {sent : List (Option Bool)}
    (hsent : conn.sent = isMuted :: sent) (cId : String) :
    Tracked (connections.set (S, session) { conn with sent })
      ((s.act (.updateMemberState S session ⟨isMuted, none⟩ cId)).getD s)
      [] := by
  obtain ⟨hpoint, hserving⟩ := h
  cases hact : s.act (.updateMemberState S session ⟨isMuted, none⟩ cId) with
  | none =>
      refine ⟨hpoint, hserving.update
        fun v x conn₁ hv hx hconn₁ hfollows _ => ?_⟩
      rw [hconn] at hconn₁
      cases hconn₁
      refine ⟨⟨hfollows.received, hfollows.space⟩, fun y m hy ho hm _ => ?_⟩
      -- the server would listen to a session that has joined
      have hlisten := (((hpoint.channels hv).orderly session y hy).joined
        hm).1
      have hsome := hact
      dsimp only [act] at hsome
      rw [hv, Option.bind_some, hy, Option.bind_some, if_pos ho, hlisten]
        at hsome
      cases hsome
  | some s' =>
      rw [Option.getD_some]
      cases act_acts hact with
      | @called _ v _ p _ hv hc hpub =>
          cases hc with
          | @updateMemberState _ x memberId _ _ hx ho hlisten =>
              cases hpub
              have hany : removesDeserted ([] : List (Out Publisher)) s
                (.updateMemberState S session ⟨isMuted, none⟩ cId) := trivial
              refine ⟨hpoint.called hany hv
                (.updateMemberState _ cId hx ho hlisten), ?_⟩
              have hchannels := hpoint.channels hv
              have hheld := Server.held_of_listening (hpoint.prepares S v hv)
                hx hlisten
              intro S' u hu
              by_cases heq : S' = S
              · subst heq
                rw [JsMap.get?_set_self] at hu
                cases hu
                refine (hserving S' v hv).updateMember hchannels
                  (Server.updateMemberState_keeps hchannels.registered _ _ _
                    _) hconn hsent (fun y hy => ?_)
                  (fun session' y hy hid => ?_)
                  (Server.updateMemberState_mutedOf v session memberId _ cId)
                  ?_ fun session' hne => ?_
                · rw [hx] at hy
                  cases hy
                  exact hlisten
                · exact hpoint.held_inj hv
                    (held_of_memberId hchannels hy hid) hheld
                · exact JsMap.get?_set_self ..
                · rw [connectionsOf_set, if_neg fun h => hne h.2]
              · rw [JsMap.get?_set_of_ne _ _ heq] at hu
                intro session' y hy
                rw [connectionsOf_set, if_neg fun h => heq h.1]
                exact hserving S' u hu session' y hy

end Clients

end System

namespace ClientSystem

/-! ## §6. Runs. -/

/-- **A step keeps the clients in step.** -/
theorem step_tracked {cs cs' : ClientSystem} {a : ClientAction}
    {tr obs : List (Out Publisher)}
    (h : System.Tracked cs.connections cs.system [])
    (hg : staysInStep tr cs a)
    (hs : clientMachine.step cs a = some (cs', obs)) :
    System.Tracked cs'.connections cs'.system [] := by
  obtain ⟨cs₁, hact, heq⟩ := Option.map_eq_some_iff.mp hs
  cases heq
  -- the outputs of the step before are of no concern
  have hflushed : System.Tracked cs.connections
      { cs.system with out := [] } [] := ⟨h.1.flushed [], h.2⟩
  have hstep : ∀ {b : SystemAction} {s' : System},
      System.act { cs.system with out := [] } b = some s' →
      machine.step cs.system b = some (s', s'.out) := by
    intro b s' hs'
    show (System.act _ b).map _ = _
    rw [hs']
    rfl
  -- by the action: the system, a new client, a change, or a message
  cases a with
  | system a =>
      dsimp only [act] at hact
      by_cases ha : a.ofClient = true
      · rw [if_pos ha] at hact
        cases hact
      · rw [if_neg ha] at hact
        obtain ⟨s', hs', rfl⟩ := Option.map_eq_some_iff.mp hact
        have hwait : System.clientsWait tr cs.system a :=
          ⟨hg, Bool.eq_false_of_not_eq_true ha⟩
        exact (System.Tracked.closed cs.connections).step h hwait (hstep hs')
  | connect S auth data isMuted early =>
      obtain ⟨v, hv, hact⟩ := Option.bind_eq_some_iff.mp hact
      obtain ⟨s', hs', rfl⟩ := Option.map_eq_some_iff.mp hact
      exact h.connected hv (hstep hs') fun x hx =>
        Connection.initial_follows data isMuted early hx
  -- the guard says that the change is sent as it is applied
  | update S session c =>
      obtain ⟨conn, hconn, rfl⟩ := Option.map_eq_some_iff.mp hact
      exact hflushed.updated hconn (hg conn hconn)
  -- the oldest message is taken by the server
  | toServer S session cId =>
      obtain ⟨conn, hconn, hact⟩ := Option.bind_eq_some_iff.mp hact
      cases hsent : conn.sent with
      | nil =>
          rw [hsent] at hact
          cases hact
      | cons isMuted sent =>
          rw [hsent] at hact
          cases hact
          exact hflushed.sent hconn hsent cId
  | toClient S session =>
      obtain ⟨conn, hconn, hact⟩ := Option.bind_eq_some_iff.mp hact
      obtain ⟨x, hx, hact⟩ := Option.bind_eq_some_iff.mp hact
      obtain ⟨event, he, rfl⟩ := Option.map_eq_some_iff.mp hact
      obtain ⟨v, hv, hget⟩ := Option.bind_eq_some_iff.mp hx
      refine hflushed.received hv hget hconn he ?_
      -- the guard is about the snapshot that arrives
      intro hnew id caps clientSideSpace hinit isMuted hmuted
      have hinit := hg conn hconn hnew x hx event he
      subst event
      refine hinit isMuted ?_
      show (cs.system.servers.get? S).bind _ = _
      rw [hv]
      exact hmuted

theorem Run.tracked {past : List ClientSystem} {cs : ClientSystem}
    {tr : List (Out Publisher)}
    (h : clientMachine.Run staysInStep past cs tr) :
    System.Tracked cs.connections cs.system [] := by
  induction h with
  | init h =>
      cases h
      exact ⟨.initial, fun _ _ hv => nomatch hv⟩
  | step _ hg hs ih => exact step_tracked ih hg hs

end ClientSystem

/-- **Mute state converges.**  In every state of a run whose steps meet
`staysInStep`: once the updates of a client that has joined have arrived,
and all events have, its own flag is the flag in the mirror, and the flag
that every other client of the space who has received all events shows. -/
theorem mute_converges {past : List ClientSystem} {cs : ClientSystem}
    {tr : List (Out Publisher)}
    (h : clientMachine.Run ClientSystem.staysInStep past cs tr)
    {S : ServerId} {v : Server} {session : SessionId} {x : Session}
    {m : MemberId} {conn : Connection}
    (hv : cs.system.servers.get? S = some v)
    (hx : v.sessions.get? session = some x) (ho : x.isOpen = true)
    (hm : x.memberId = some m)
    (hconn : cs.connections.get? (S, session) = some conn)
    (hsent : conn.sent = []) (hreceived : conn.received = x.emitted.length) :
    v.mutedOf m = some conn.isMuted ∧
      ∀ session' x' m' conn', v.sessions.get? session' = some x' →
        x'.isOpen = true → x'.memberId = some m' → session' ≠ session →
        x'.auth.spaceUuid = x.auth.spaceUuid →
        cs.connections.get? (S, session') = some conn' →
        conn'.received = x'.emitted.length →
        (conn'.space.consumerMembers.get? m).map (·.state.isMuted)
          = some conn.isMuted := by
  obtain ⟨hpoint, hserving⟩ := ClientSystem.Run.tracked h
  have hviewed := hpoint.viewed S v hv
  obtain ⟨conn₁, hconn₁, hfollows, htuned⟩ := hserving S v hv session x hx
  obtain rfl : conn = conn₁ := Option.some.inj (hconn.symm.trans hconn₁)
  obtain ⟨ref, hcur⟩ := hpoint.current_of_open hv hx ho hm
  -- a client that has received all events shows the mirror
  have hshows : ∀ {session' x' m' conn' ref'}, v.Current m' session' x' ref' →
      cs.connections.get? (S, session') = some conn' →
      conn'.received = x'.emitted.length →
      ∃ space w p, v.spaceHeap.get? ref' = some space ∧
        Web.Space.Shows w m' space ∧ conn'.space = w.withProducer p := by
    intro session' x' m' conn' ref' hcur' hconn' hreceived'
    obtain ⟨conn₂, hconn₂, hfollows', -⟩ :=
      hserving S v hv session' x' hcur'.session
    obtain rfl : conn' = conn₂ := Option.some.inj (hconn'.symm.trans hconn₂)
    obtain ⟨data, isMuted, p, hspace⟩ := hfollows'.view hreceived'
    obtain ⟨space, hget, hshow⟩ := hviewed m' session' x' ref' hcur' data
      isMuted
    exact ⟨space, _, p, hget, hshow, hspace⟩
  have hown : v.mutedOf m = some conn.isMuted := by
    obtain ⟨space, w, p, -, hshow, hspace⟩ := hshows hcur hconn hreceived
    have hr : conn.space.spaceInitReceived = true := by
      rw [hspace]
      exact hshow.received
    obtain ⟨isMuted, hmuted, heq⟩ := htuned x m hx ho hm hr
    rw [hsent] at heq
    rw [hmuted, heq]
    rfl
  refine ⟨hown, ?_⟩
  intro session' x' m' conn' hx' ho' hm' hne huuid hconn' hreceived'
  obtain ⟨ref', hcur'⟩ := hpoint.current_of_open hv hx' ho' hm'
  have href : ref' = ref := by
    have hstored := hcur'.stored
    rw [huuid, hcur.stored] at hstored
    exact (Option.some.inj hstored).symm
  obtain ⟨space, w, p, hget, hshow, hspace⟩ := hshows hcur' hconn' hreceived'
  have hother : m ≠ m' := by
    rintro rfl
    have hreg := hcur'.registered
    rw [hcur.registered] at hreg
    exact hne (Option.some.inj hreg).symm
  rw [hspace]
  show (w.consumerMembers.get? m).map _ = _
  rw [hshow.members, if_neg hother, Option.map_map]
  rw [Server.mutedOf, hcur.owning, Option.bind_some, ← href, hget,
    Option.bind_some] at hown
  exact hown

section Toggles

/-- A session of a server, with its client. -/
def ClientSystem.client (cs : ClientSystem) (S : ServerId)
    (session : SessionId) : Option (Server × Session × Connection) :=
  (cs.system.servers.get? S).bind fun v =>
    (v.sessions.get? session).bind fun x =>
      (cs.connections.get? (S, session)).map fun conn => (v, x, conn)

theorem ClientSystem.client_eq {cs : ClientSystem} {S : ServerId}
    {session : SessionId} {v : Server} {x : Session} {conn : Connection}
    (h : cs.client S session = some (v, x, conn)) :
    cs.system.servers.get? S = some v ∧
      v.sessions.get? session = some x ∧
      cs.connections.get? (S, session) = some conn := by
  obtain ⟨v', hv, h⟩ := Option.bind_eq_some_iff.mp h
  obtain ⟨x', hx, h⟩ := Option.bind_eq_some_iff.mp h
  obtain ⟨conn', hconn, heq⟩ := Option.map_eq_some_iff.mp h
  cases heq
  exact ⟨hv, hx, hconn⟩

/-- The session is open and has joined as `m`, and nothing is on its way. -/
def Connection.Settled (conn : Connection) (x : Session) (m : MemberId) :
    Prop :=
  x.isOpen = true ∧ x.memberId = some m ∧ conn.sent = [] ∧
    conn.received = x.emitted.length

instance (conn : Connection) (x : Session) (m : MemberId) :
    Decidable (conn.Settled x m) := by
  unfold Connection.Settled
  infer_instance

/-- Ann joins, unmuted, and has received nothing yet. -/
def annClientJoins : List ClientAction :=
  [.system (.coordinator (.mediaWorkerConnected 1)),
   .system (.coordinator (.createSpaceRequest "room" ⟨"Room", ""⟩
     "subscription-driven" .external)),
   .system (.startServer 1),
   .connect 1 ⟨"room", ⟨"Ann"⟩, ⟨false, false⟩⟩ ⟨"Ann"⟩ false [],
   .system (.coordinator (.routerAck 0 "caps")),
   .system (.coordinator (.resume 0)), .system (.coordinator (.resume 0)),
   .system (.resume 1 0), .system (.coordinator (.resume 0)),
   .system (.resume 1 0)]

/-- Ann mutes herself before her snapshot arrives. -/
def annMutesEarly : List ClientAction :=
  annClientJoins ++ [.update 1 0 (.call (some true) []), .toServer 1 0 "c",
    .toClient 1 0, .toClient 1 0, .toClient 1 0, .toClient 1 0]

/-- The snapshot unmutes her, on her side only. -/
theorem mute_overwritten : ∃ past cs tr,
    clientMachine.Run anyStep past cs tr ∧
    ∃ v x conn, cs.client 1 0 = some (v, x, conn) ∧ conn.Settled x 0 ∧
      v.mutedOf 0 = some true ∧ conn.isMuted = false := by
  obtain ⟨past, cs, tr, hr, hp⟩ := Machine.Run.exists_of_exec
    (M := clientMachine) (G := anyStep) (l := annMutesEarly)
    (p := fun r => decide (∃ c ∈ r.2.1.client 1 0,
      c.2.2.Settled c.2.1 0 ∧ c.1.mutedOf 0 = some true ∧
      c.2.2.isMuted = false)) rfl (by decide +kernel)
  obtain ⟨⟨v, x, conn⟩, hclient, hc⟩ := of_decide_eq_true hp
  exact ⟨past, cs, tr, hr, v, x, conn, hclient, hc⟩

/-- Ann mutes herself after it, and after Ben has joined. -/
def annMutesLate : List ClientAction :=
  annClientJoins ++ [.toClient 1 0, .toClient 1 0,
    .connect 1 benAuth ⟨"Ben"⟩ false [], .system (.resume 1 1),
    .system (.coordinator (.resume 0)), .system (.resume 1 1),
    .toClient 1 1, .toClient 1 1, .toClient 1 0,
    .update 1 0 (.call (some true) []), .toServer 1 0 "c",
    .toClient 1 0, .toClient 1 0, .toClient 1 1]

/-- The mirror and Ben have heard of it. -/
theorem mute_converges_ann : ∃ past cs tr,
    clientMachine.Run ClientSystem.staysInStep past cs tr ∧
    ∃ v conn conn', conn.isMuted = true ∧ v.mutedOf 0 = some conn.isMuted ∧
      cs.system.servers.get? 1 = some v ∧
      cs.connections.get? (1, 0) = some conn ∧
      cs.connections.get? (1, 1) = some conn' ∧
      (conn'.space.consumerMembers.get? 0).map (·.state.isMuted)
        = some conn.isMuted := by
  obtain ⟨past, cs, tr, hr, hp⟩ := Machine.Run.exists_of_exec
    (M := clientMachine) (G := ClientSystem.staysInStep)
    (l := annMutesLate) (p := fun r => decide
      ((∃ c ∈ r.2.1.client 1 0, c.2.2.Settled c.2.1 0 ∧
        c.2.2.isMuted = true ∧ c.2.1.auth.spaceUuid = "room") ∧
      ∃ c ∈ r.2.1.client 1 1, c.2.2.Settled c.2.1 1 ∧
        c.2.1.auth.spaceUuid = "room")) rfl (by decide +kernel)
  obtain ⟨⟨⟨v, x, conn⟩, hann, hset, hmuted, huuid⟩,
    ⟨⟨v', x', conn'⟩, hben, hset', huuid'⟩⟩ := of_decide_eq_true hp
  obtain ⟨hv, hx, hconn⟩ := ClientSystem.client_eq hann
  obtain ⟨hv', hx', hconn'⟩ := ClientSystem.client_eq hben
  obtain rfl : v = v' := Option.some.inj (hv.symm.trans hv')
  obtain ⟨ho, hm, hsent, hreceived⟩ := hset
  obtain ⟨ho', hm', -, hreceived'⟩ := hset'
  obtain ⟨hown, hothers⟩ := mute_converges hr hv hx ho hm hconn hsent
    hreceived
  refine ⟨past, cs, tr, hr, v, conn, conn', hmuted, hown, hv, hconn, hconn',
    ?_⟩
  exact hothers 1 x' 1 conn' hx' ho' hm' (by decide)
    (huuid'.trans huuid.symm) hconn' hreceived'

end Toggles

end Twolk.Signaling
