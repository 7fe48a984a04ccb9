/-
  Twolk.Signaling.Connected
  ─────────────────────────
  **WHO IS SHOWN AS CONNECTED.**

  `transportIsConnected` of a mirrored member is written in three places:
  it is `false` when the member joins or is in a snapshot, `true` when the
  coordinator announces the producer as connected, and whatever the client
  sends with `updateMemberState`.  The announcement comes with the ack of a
  produce, not of a connect, and the client's word is taken unchecked.

  Main result: `connected_truthful` — while neither of the last two marks a
  member whose producer is not connected, every member a mirror shows as
  connected has a connected producer.
-/
import Twolk.Signaling.Mirrors
import Twolk.Coordinator.Announcements

namespace Twolk.Signaling

open Twolk.Lib Coordinator

namespace Server

/-! ## §1. What a mirror shows. -/

/-- Every member a mirrored space shows as connected is in `P`. -/
def ShowsOnly (P : MemberId → Prop) (v : Server) : Prop :=
  ∀ ref space m member, v.spaceHeap.get? ref = some space →
    space.members.get? m = some member →
    member.state.transportIsConnected = true → P m

/-- An announcement that `m` is connected is written to the mirror. -/
def marks (v : Server) (uuid : Uuid) (m : MemberId) : Bool :=
  v.spaces.has uuid && v.memberIdToChannel.has m && v.members.has m

variable {P Q : MemberId → Prop} {v v' : Server}

/-- A weaker condition on the members shown as connected. -/
theorem ShowsOnly.mono (h : v.ShowsOnly P) (hPQ : ∀ m, P m → Q m) :
    v.ShowsOnly Q :=
  fun ref space m member hs hm hc => hPQ m (h ref space m member hs hm hc)

theorem ShowsOnly.of_heap (h : v.ShowsOnly P)
    (heap : v'.spaceHeap = v.spaceHeap) : v'.ShowsOnly P := by
  intro ref space m member hs
  rw [heap] at hs
  exact h ref space m member hs

/-- One mirrored space changes, and shows nobody else as connected. -/
theorem ShowsOnly.modify {ref : SpaceRef} {f : Space → Space}
    (h : v.ShowsOnly P)
    (heap : v'.spaceHeap = v.spaceHeap.modify ref f)
    (hf : ∀ space m member, v.spaceHeap.get? ref = some space →
      (f space).members.get? m = some member →
      member.state.transportIsConnected = true →
      P m ∨ space.members.get? m = some member) : v'.ShowsOnly P := by
  intro ref' space' m member hs hm hc
  rw [heap, JsMap.get?_modify] at hs
  split at hs
  · obtain ⟨space, hspace, rfl⟩ := Option.map_eq_some_iff.mp hs
    rcases hf space m member hspace hm hc with hP | hold
    · exact hP
    · exact h ref space m member hspace hold hc
  · exact h ref' space' m member hs hm hc

/-- A new member is shown as not connected. -/
theorem ShowsOnly.addMember (h : v.ShowsOnly P) (id : MemberId)
    (ref : SpaceRef) (data : MemberData) {state : MemberState}
    (hstate : state.transportIsConnected = false) :
    (v.addMember id ref data state).ShowsOnly P := by
  refine h.modify (f := fun s =>
    { s with members := s.members.set id ⟨data, state⟩ }) rfl
    fun space m member _ hm hc => ?_
  rw [JsMap.get?_set] at hm
  split at hm
  · cases hm
    rw [hstate] at hc
    cases hc
  · exact .inr hm

/-- One member fewer is shown. -/
theorem ShowsOnly.removeMember (h : v.ShowsOnly P) (id : MemberId) :
    (v.removeMember id).ShowsOnly P := by
  unfold Server.removeMember
  split
  · exact h
  · refine h.modify (f := fun s =>
      { s with members := s.members.delete id }) rfl
      fun space m member _ hm _ => .inr ?_
    rw [JsMap.get?_delete] at hm
    split at hm
    · cases hm
    · exact hm

theorem ShowsOnly.addSpace (h : v.ShowsOnly P) (uuid : Uuid)
    (data : SpaceData) (caps : Json) :
    (v.addSpace uuid data caps).ShowsOnly P := by
  intro ref space m member hs hm hc
  have hs : (v.spaceHeap.set v.spaceRefGen
    { uuid, data, members := ∅, routerRtpCapabilities := caps }).get? ref
      = some space := hs
  rw [JsMap.get?_set] at hs
  split at hs
  · cases hs
    cases hm
  · exact h ref space m member hs hm hc

/-- The members of a snapshot, by induction on them. -/
theorem ShowsOnly.addMembers (ref : SpaceRef) :
    ∀ (l : List ClientSideMember) {v : Server}, v.ShowsOnly P →
      (∀ m ∈ l, m.state.transportIsConnected = false) →
      (l.foldl (fun v' m => v'.addMember m.id ref m.data m.state)
        v).ShowsOnly P
  | [], _, h, _ => h
  | a :: l, _, h, hl => by
      have ha := h.addMember a.id ref a.data (hl a List.mem_cons_self)
      exact ha.addMembers ref l fun m hm => hl m (List.mem_cons_of_mem a hm)

/-- The update of one member shows no other one as connected. -/
theorem ShowsOnly.updateMember (h : v.ShowsOnly P) {memberId : MemberId}
    {update : MemberStateUpdate}
    (hP : update.transportIsConnected = some true →
      v.members.has memberId = true → P memberId)
    (hu : v.updateMember memberId update = some v') : v'.ShowsOnly P := by
  obtain ⟨ref, space, member, href, hspace, hmember, rfl⟩ :=
    updateMember_eq hu
  refine ShowsOnly.of_heap ?_ (broadcast_heap _ _ _)
  refine h.modify (f := fun s =>
    { s with
      members := s.members.modify memberId fun m =>
        { m with state := member.state.merge update } }) rfl
    fun space' m member' hspace' hm hc => ?_
  rw [hspace] at hspace'
  cases hspace'
  rw [JsMap.get?_modify] at hm
  by_cases hself : m = memberId
  · rw [if_pos hself, hmember] at hm
    cases hm
    left
    rw [hself]
    unfold MemberState.merge at hc
    cases hflag : update.transportIsConnected with
    | none =>
        rw [hflag] at hc
        exact h ref space memberId member hspace hmember hc
    | some flag =>
        rw [hflag] at hc
        have hflag : update.transportIsConnected = some true :=
          hflag.trans (congrArg some hc)
        exact hP hflag (JsMap.has_iff.mpr ⟨ref, href⟩)
  · rw [if_neg hself] at hm
    exact .inr hm

/-! ## §2. Server functions and callbacks. -/

/-- An update of the coordinator writes the mirror as `marks` says. -/
theorem onSpaceUpdate_shows (h : v.ShowsOnly P) (uuid : Uuid)
    (update : SpaceUpdateC)
    (hP : ∀ m, update = .producerConnectedEvent m →
      v.marks uuid m = true → P m) :
    (v.onSpaceUpdate uuid update).ShowsOnly P ∧
      ∀ uuid' m, (v.onSpaceUpdate uuid update).marks uuid' m
        = v.marks uuid' m := by
  have hbroadcast : ∀ (v : Server) (ids : List MemberId)
      (event : ServerToClientEvent) (uuid' : Uuid) (m : MemberId),
      (v.broadcast ids event).marks uuid' m = v.marks uuid' m := by
    intro v ids event uuid' m
    obtain ⟨sessions, heq, -⟩ := v.broadcast_eq event ids
    rw [heq]
    rfl
  unfold onSpaceUpdate
  split
  · split
    · exact ⟨h.of_heap (broadcast_heap v [_] _), hbroadcast v [_] _⟩
    · exact ⟨h, fun _ _ => rfl⟩
  · rename_i memberId
    split
    · rename_i hreg
      cases hu : v.updateMember memberId ⟨none, some true⟩ with
      | none => exact ⟨h, fun _ _ => rfl⟩
      | some v' =>
          refine ⟨h.updateMember (fun _ hmem => hP memberId rfl ?_) hu, ?_⟩
          · unfold marks
            rw [hreg.1, hreg.2, hmem]
            rfl
          · obtain ⟨ref, space, member, -, -, -, rfl⟩ := updateMember_eq hu
            exact hbroadcast _ _ _
    · exact ⟨h, fun _ _ => rfl⟩

/-- All that is heard, by induction on the updates. -/
theorem ShowsOnly.hears (heard : List (Out Publisher)) :
    ∀ {v : Server}, v.ShowsOnly P →
      (∀ uuid m, .spaceUpdate uuid (.producerConnectedEvent m) ∈ heard →
        v.marks uuid m = true → P m) →
      (heard.foldl System.hears v).ShowsOnly P := by
  induction heard with
  | nil => exact fun h _ => h
  | cons o heard ih =>
      intro v h hP
      rw [List.foldl_cons]
      have hrest := fun uuid m hm => hP uuid m (List.mem_cons_of_mem o hm)
      cases o with
      | spaceUpdate uuid update =>
          obtain ⟨hshows, hmarks⟩ := onSpaceUpdate_shows h uuid update
            fun m heq => hP uuid m (by rw [heq]; exact List.mem_cons_self)
          refine ih hshows fun uuid' m hm hmark => hrest uuid' m hm ?_
          rw [← hmarks]
          exact hmark
      | _ => exact ih h hrest

/-- A server function, when the client's word is true. -/
theorem ShowsOnly.call {serverId : ServerId} {a : SystemAction}
    {p : Server × Option Request} (h : v.ShowsOnly P)
    (hP : ∀ session newState cId, a = .updateMemberState serverId session
      newState cId → newState.transportIsConnected = some true →
      ∀ x memberId, v.sessions.get? session = some x →
        x.listening = some memberId → v.members.has memberId = true →
        P memberId)
    (hc : System.ServerCall serverId v a p) : p.1.ShowsOnly P := by
  by_cases ha : ∃ session newState cId,
      a = .updateMemberState serverId session newState cId
  · obtain ⟨session, newState, cId, rfl⟩ := ha
    cases hc with
    | @updateMemberState _ x memberId _ _ hx _ hm =>
        unfold updateMemberState
        have hup : ((v.updateMember memberId newState).getD
            v).ShowsOnly P := by
          cases hu : v.updateMember memberId newState with
          | none => exact h
          | some v' =>
              refine h.updateMember (fun hflag hmem => ?_) hu
              exact hP session newState cId rfl hflag x memberId hx hm hmem
        exact hup.of_heap rfl
  · refine h.of_heap (call_heap hc fun session newState cId heq => ?_)
    exact ha ⟨session, newState, cId, heq⟩

theorem ShowsOnly.memberPrepared (h : v.ShowsOnly P) (session : SessionId)
    (uuid : Uuid) (data : MemberData) {state : MemberState}
    (hstate : state.transportIsConnected = false) (id : MemberId) :
    (v.onMemberPrepared session uuid data state id).ShowsOnly P := by
  cases hget : v.members.get? id with
  | some ref =>
      have hhas : v.members.has id = true := JsMap.has_iff.mpr ⟨ref, hget⟩
      unfold onMemberPrepared
      rw [if_pos hhas]
      exact h.of_heap rfl
  | none =>
      rw [onMemberPrepared_eq hget]
      split
      · exact h.of_heap rfl
      · rename_i ref href
        have hadded := h.addMember id ref data hstate
        exact hadded.of_heap (broadcast_heap _ _ _)

theorem ShowsOnly.memberDeleted (h : v.ShowsOnly P) (serverId : ServerId)
    (memberId : MemberId) :
    (v.onMemberDeleted serverId memberId).1.ShowsOnly P := by
  cases href : v.members.get? memberId with
  | none =>
      unfold onMemberDeleted
      rw [href]
      exact h
  | some ref =>
      rw [onMemberDeleted_eq serverId href]
      exact (h.removeMember memberId).of_heap (broadcast_heap _ _ _)

theorem ShowsOnly.spacePrepared (h : v.ShowsOnly P) (session : SessionId)
    (uuid : Uuid) {clientSideSpace : ClientSideSpace} (caps : Json)
    (hl : ∀ m ∈ clientSideSpace.members,
      m.state.transportIsConnected = false) :
    (v.onSpacePrepared session uuid clientSideSpace caps).ShowsOnly P := by
  rw [onSpacePrepared_eq]
  refine ShowsOnly.of_heap ?_ rfl
  split
  · exact h
  · have hadded := h.addSpace uuid clientSideSpace.data caps
    exact hadded.addMembers v.spaceRefGen _ hl

end Server

/-! ## §3. Runs in which nobody is marked too early. -/

namespace System

/-- Whom a client marks as connected, or the ack of a produce, has a
connected producer. -/
def marksConnected : Guard System SystemAction (Out Publisher) :=
  fun _ s a => match a with
  -- a client's own claim counts only where its member is still mirrored
  | .updateMemberState serverId session newState _ =>
      newState.transportIsConnected = some true →
        ∀ v ∈ s.servers.get? serverId, ∀ x ∈ v.sessions.get? session,
          ∀ m ∈ x.listening, v.members.has m = true →
            s.coordinator.producerConnected m
  -- the ack of a produce marks the member connected on every server
  | .coordinator (.updateAck id _) =>
      ∀ r ∈ s.coordinator.updateRequests.get? id, r.update.isProduce = true →
        SpaceService.hasSubscribers s.coordinator r.uuid = true →
          (∃ e ∈ s.servers.entries, e.2.marks r.uuid r.memberId = true) →
            s.coordinator.producerConnected r.memberId
  | _ => True

instance (tr : List (Out Publisher)) (s : System) (a : SystemAction) :
    Decidable (marksConnected tr s a) := by
  unfold marksConnected
  split <;> infer_instance

/-! ## §4. The coordinator's records. -/

theorem Point.baseWF {G : Guard System SystemAction (Out Publisher)}
    {s : System} {reqs : List Request} (h : Point G s reqs) :
    CoordWF s.base := by
  have hwf := coordWF_reachable h.reachable
  exact ⟨{ hwf.router with }, { hwf.member with }, { hwf.transport with }⟩

/-- Every member record says that the transport is not connected. -/
theorem Point.unconnected {G : Guard System SystemAction (Out Publisher)}
    {s : System} {reqs : List Request} (h : Point G s reqs) :
    ∀ m state, s.coordinator.stateOf m = some state →
      state.transportIsConnected = false := by
  have hact : ∀ {s s' : System} {b : Request}, Linked s →
      s.base.act b = some s'.coordinator →
      (∀ m state, s.coordinator.stateOf m = some state →
        state.transportIsConnected = false) →
      ∀ m state, s'.coordinator.stateOf m = some state →
        state.transportIsConnected = false := by
    intro s s' b hl ha ih m state hm
    rcases stateOf_act ha m state hm with hold | ⟨uuid, data, cb, hw⟩
    · exact ih m state hold
    · -- whoever waits to be added joins unconnected
      cases hl.waiting _ hw with
      | addMember => rfl
  induction h with
  | initial => exact fun _ _ hm => nomatch hm
  | flushed _ _ ih | started _ _ ih | called _ _ _ _ ih => exact ih
  | published h _ _ ha ih => exact hact h.linked ha ih
  | coordinated h _ _ _ ha ih => exact hact h.linked ha ih

theorem clientSideMembers_state {c : Coord Publisher}
    {space : Coordinator.Space}
    (h : ∀ m state, c.stateOf m = some state →
      state.transportIsConnected = false) :
    ∀ m ∈ SpaceService.clientSideMembers c space,
      m.state.transportIsConnected = false := by
  intro m hm
  obtain ⟨id, -, hid⟩ := List.mem_filterMap.mp hm
  obtain ⟨member, hmember, rfl⟩ := Option.map_eq_some_iff.mp hid
  refine h id member.state ?_
  unfold Coord.stateOf
  rw [hmember]
  rfl

/-! ## §5. What a mirror shows over a run. -/

section Run

variable {s s' : System} {b : Request} {reqs : List Request}

/-- What is heard in a stretch is announced in it. -/
theorem announced_of_heard {c' d : Coord Publisher}
    {asked answered : List (Waiting Publisher)}
    {heard : List (Out Publisher)} {P : Uuid → SpaceUpdateC → Prop}
    (h : Turn d c' asked answered heard) (hout : d.out = [])
    (hP : c'.AnnouncesOnly P) {uuid : Uuid} {update : SpaceUpdateC}
    (hm : .spaceUpdate uuid update ∈ heard) : P uuid update := by
  have heq := h.heard
  rw [hout, List.filter_nil, List.nil_append] at heq
  rw [← heq] at hm
  exact hP uuid update (List.mem_filter.mp hm).1

/-- **A move shows nobody as connected too early**, unless it is the ack of
a produce that does. -/
theorem Move.shows {G : Guard System SystemAction (Out Publisher)}
    {later : List Request} (hpoint : Point G s later) (hm : Move s b s' reqs)
    (ha : s.base.act b = some s'.coordinator)
    (hmark : ∀ id resp r, b = .updateAck id resp →
      s.coordinator.updateRequests.get? id = some r →
      r.update.isProduce = true →
      SpaceService.hasSubscribers s.coordinator r.uuid = true →
      ∀ S v, s.servers.get? S = some v → v.marks r.uuid r.memberId = true →
        s.coordinator.producerConnected r.memberId)
    (h : ∀ S v, s.servers.get? S = some v →
      v.ShowsOnly s.coordinator.producerConnected) :
    ∀ S v, s'.servers.get? S = some v →
      v.ShowsOnly s.coordinator.producerConnected := by
  have hannounced := announcement_act hpoint.baseWF rfl ha
  -- what is heard of a producer comes with the ack of a produce
  have hheard : ∀ {d : Coord Publisher} {asked answered}
      {heard heard' : List (Out Publisher)}
      {servers : JsMap ServerId Server},
      Turn d s'.coordinator asked answered heard' → d.out = [] →
      (∀ o ∈ heard, o ∈ heard') →
      (∀ S v, servers.get? S = some v →
        v.ShowsOnly s.coordinator.producerConnected ∧
        ∃ u, s.servers.get? S = some u ∧
          ∀ uuid m, v.marks uuid m = u.marks uuid m) →
      ∀ S v, (announce servers heard).get? S = some v →
        v.ShowsOnly s.coordinator.producerConnected := by
    intro d asked answered heard heard' servers hturn hout hsub hold S v' hv'
    rw [announce, JsMap.get?_mapVal] at hv'
    obtain ⟨v, hget, rfl⟩ := Option.map_eq_some_iff.mp hv'
    obtain ⟨hv, u, hu, hmarks⟩ := hold S v hget
    refine hv.hears heard fun uuid m hm hmarked => ?_
    rw [hmarks] at hmarked
    cases announced_of_heard hturn hout hannounced (hsub _ hm) with
    | connected hr hp hs =>
        exact hmark _ _ _ rfl hr hp hs S u hu hmarked
  cases hm with
  | quiet _ _ hv | asked _ _ _ _ hv | forwarded _ _ hv | unsubscribing _ hv
  | abandoned _ hv | updateNacked _ _ hv =>
      rw [hv]
      exact h
  | announced _ _ hturn hv =>
      rw [hv]
      exact hheard hturn rfl (fun _ ho => ho)
        fun S v hget => ⟨h S v hget, v, hget, fun _ _ => rfl⟩
  | rejected _ _ hv =>
      rw [hv]
      exact JsMap.forall_modify h fun v hget => (h _ v hget).of_heap rfl
  | removed _ _ _ hv =>
      rw [hv]
      exact JsMap.forall_modify h fun v hget =>
        (h _ v hget).memberDeleted _ _
  | subscribed _ _ _ _ hv =>
      rw [hv]
      refine JsMap.forall_modify h fun v hget => ?_
      exact (h _ v hget).spacePrepared _ _ _
        (clientSideMembers_state hpoint.unconnected)
  | unsubscribed _ _ hv =>
      rw [hv]
      exact JsMap.forall_modify h fun v hget => (h _ v hget).of_heap rfl
  | added _ _ _ _ hv =>
      rw [hv]
      exact JsMap.forall_modify h fun v hget =>
        (h _ v hget).memberPrepared _ _ _ rfl _
  | @updated _ _ _ _ serverId session event cId resp heard _ _ _ hturn hv =>
      rw [hv]
      refine hheard hturn rfl (fun _ ho => List.mem_cons_of_mem _ ho)
        fun S v hget => ?_
      split at hget
      · exact ⟨h S v hget, v, hget, fun _ _ => rfl⟩
      · rcases JsMap.get?_modify_cases hget with ⟨rfl, u, hu, rfl⟩ | ⟨-, hu⟩
        · exact ⟨(h S u hu).of_heap rfl, u, hu, fun _ _ => rfl⟩
        · exact ⟨h S v hu, v, hu, fun _ _ => rfl⟩

end Run

/-- **Nobody is shown as connected too early**, at every point of such a
run. -/
theorem Point.shows {s : System} {reqs : List Request}
    (h : Point marksConnected s reqs) :
    ∀ S v, s.servers.get? S = some v →
      v.ShowsOnly s.coordinator.producerConnected := by
  -- a producer that was connected still is
  have hlater : ∀ {s s' : System} {b : Request} {reqs : List Request},
      Point marksConnected s reqs → s.base.act b = some s'.coordinator →
      (∀ S v, s'.servers.get? S = some v →
        v.ShowsOnly s.coordinator.producerConnected) →
      ∀ S v, s'.servers.get? S = some v →
        v.ShowsOnly s'.coordinator.producerConnected := by
    intro s s' b reqs hpoint ha hold S v hv
    exact (hold S v hv).mono fun m hm =>
      producerConnected_act hpoint.baseWF ha hm
  induction h with
  | initial => exact fun _ _ hv => nomatch hv
  | flushed _ _ ih => exact ih
  | started _ _ ih =>
      exact JsMap.forall_set ih fun _ _ _ _ hs => nomatch hs
  | @called tr s serverId v a p h hg hv hc ih =>
      refine JsMap.forall_set ih ((ih _ _ hv).call ?_ hc)
      rintro session newState cId rfl hflag x memberId hx hm hmem
      exact hg hflag v hv x hx memberId hm hmem
  | published h hready hm ha ih =>
      refine hlater h ha (hm.shows h ha (fun id resp r hb => ?_) ih)
      subst hb
      cases hready
  | @coordinated tr s s' b reqs h hg hready hm ha ih =>
      refine hlater h ha (hm.shows h ha ?_ ih)
      rintro id resp r rfl hr hp hs S v hv hmarks
      exact hg r hr hp hs
        ⟨(S, v), JsMap.mem_entries.mpr hv, hmarks⟩

end System

/-- **The flag tells the truth**: in every run in which nobody is marked as
connected too early, every member a server shows as connected has a
connected producer at the coordinator. -/
theorem connected_truthful {past : List System} {s : System}
    {tr : List (Out Publisher)}
    (h : machine.Run System.marksConnected past s tr) :
    ∀ serverId v, s.servers.get? serverId = some v →
      v.ShowsOnly s.coordinator.producerConnected :=
  (System.Run.point h).shows

section Marks

/-- The state of member `m` in the mirror numbered `ref`. -/
def Server.stateIn (v : Server) (ref : SpaceRef) (m : MemberId) :
    Option MemberState :=
  (v.spaceHeap.get? ref).bind fun space =>
    (space.members.get? m).map Member.state

theorem Server.not_showsOnly {v : Server} {P : MemberId → Prop}
    (ref : SpaceRef) {m : MemberId}
    (h : (v.stateIn ref m).map MemberState.transportIsConnected = some true)
    (hm : ¬ P m) : ¬ v.ShowsOnly P := by
  intro hshows
  obtain ⟨state, hstate, hc⟩ := Option.map_eq_some_iff.mp h
  obtain ⟨space, hspace, hmember⟩ := Option.bind_eq_some_iff.mp hstate
  obtain ⟨member, hget, rfl⟩ := Option.map_eq_some_iff.mp hmember
  exact hm (hshows ref space m member hspace hget hc)

/-- Ann says that she is connected. -/
def annClaims : List SystemAction :=
  twoMembers.take 12 ++ [.updateMemberState 1 0 ⟨none, some true⟩ "c"]

/-- Ann is believed when she says that she is connected. -/
theorem connected_claimed : ∃ past s tr, machine.Run anyStep past s tr ∧
    ∃ v, s.servers.get? 1 = some v ∧
      ¬ v.ShowsOnly s.coordinator.producerConnected := by
  obtain ⟨past, s, tr, hr, hp⟩ := Machine.Run.exists_of_exec (M := machine)
    (G := anyStep) (l := annClaims) (p := fun r => decide
      (((r.2.1.servers.get? 1).bind fun v => v.stateIn 0 0).map
        MemberState.transportIsConnected = some true ∧
      ¬ r.2.1.coordinator.producerConnected 0)) rfl (by decide)
  obtain ⟨hflag, hno⟩ := of_decide_eq_true hp
  obtain ⟨state, hstate, hc⟩ := Option.map_eq_some_iff.mp hflag
  obtain ⟨v, hv, hstate⟩ := Option.bind_eq_some_iff.mp hstate
  refine ⟨past, s, tr, hr, v, hv, Server.not_showsOnly 0 ?_ hno⟩
  rw [hstate, Option.map_some, hc]

/-- Ann connects her producer, and then produces. -/
def annProduces : List SystemAction :=
  twoMembers.take 12 ++
    [.forward 1 0 (.transportProducerConnect "dtls") "a",
     .coordinator (.updateAck 0 ⟨"0", none, none, none⟩),
     .forward 1 0 (.transportProducerProduce "audio" "rtp") "b",
     .coordinator (.updateAck 1 ⟨"0", none, none, none⟩)]

/-- Ann is shown as connected, and is. -/
theorem connected_truthful_ann : ∃ past s tr,
    machine.Run System.marksConnected past s tr ∧
    ∃ v, s.servers.get? 1 = some v ∧
      (v.stateIn 0 0).map MemberState.transportIsConnected = some true ∧
      v.ShowsOnly s.coordinator.producerConnected := by
  obtain ⟨past, s, tr, hr, hp⟩ := Machine.Run.exists_of_exec (M := machine)
    (G := System.marksConnected) (l := annProduces) (p := fun r => decide
      (((r.2.1.servers.get? 1).bind fun v => v.stateIn 0 0).map
        MemberState.transportIsConnected = some true)) rfl (by decide)
  obtain ⟨state, hstate, hc⟩ := Option.map_eq_some_iff.mp
    (of_decide_eq_true hp)
  obtain ⟨v, hv, hstate⟩ := Option.bind_eq_some_iff.mp hstate
  refine ⟨past, s, tr, hr, v, hv, ?_, connected_truthful hr 1 v hv⟩
  rw [hstate, Option.map_some, hc]

end Marks

end Twolk.Signaling
