/-
  Twolk.Signaling.ClientView
  ──────────────────────────
  **A CLIENT'S VIEW REFINES THE MIRROR.**

  The abstract state is the mirrored space a channel was registered for; the
  concrete one is what the web client computes from the events on that
  channel.  `Viewed` relates the two.  A broadcast about a member goes to
  the registered members of its owning space, which is the stored one
  (`Mirrors.current`), so each client whose space is still stored hears of
  every change of its space once, and of no other.

  Main results:
    * `Viewed.broadcast` — a change of a space and its announcement keep the
      relation,
    * `client_view` — it holds for every registered channel in every
      reachable state.
-/
import Twolk.Signaling.Mirrors
import Twolk.Web.Space

namespace Twolk.Signaling

open Twolk.Lib Coordinator Web.Space

/-- What the web client makes of the events on the channel. -/
def Session.view (x : Session) (data : MemberData) (isMuted : Bool) :
    Web.Space :=
  (Web.Space.initial data isMuted).receiveAll x.emitted

namespace Server

/-! ## §1. The relation. -/

/-- The channel of `session` is registered for `m`, and the owning space of
`m` is still the object stored when it was. -/
structure Current (v : Server) (m : MemberId) (session : SessionId)
    (x : Session) (ref : SpaceRef) : Prop where
  registered : v.memberIdToChannel.get? m = some session
  session : v.sessions.get? session = some x
  mirror : x.mirror = some ref
  stored : v.spaces.get? x.auth.spaceUuid = some ref
  owning : v.members.get? m = some ref

/-- Every client whose space is still stored sees that space. -/
def Viewed (v : Server) : Prop :=
  ∀ m session x ref, v.Current m session x ref → ∀ data isMuted,
    ∃ space, v.spaceHeap.get? ref = some space ∧
      Shows (x.view data isMuted) m space

variable {v v' v₁ : Server}

/-- The client's view goes on with the events. -/
theorem view_hear (x : Session) (events : List ServerToClientEvent)
    (data : MemberData) (isMuted : Bool) :
    (x.hear events).view data isMuted
      = (x.view data isMuted).receiveAll events :=
  List.foldl_append

/-- A registered member is registered for one channel, once. -/
theorem registrations_eq (h : Registered v) {m : MemberId}
    {session : SessionId} {ids : List MemberId}
    (hm : v.memberIdToChannel.get? m = some session) (hn : ids.Nodup) :
    v.registrations ids session = if m ∈ ids then 1 else 0 := by
  have honly : ∀ m', v.memberIdToChannel.get? m' = some session ↔
      m' = m := by
    intro m'
    constructor
    · intro hm'
      obtain ⟨x, hx, -, hid⟩ := h m session hm
      obtain ⟨y, hy, -, hid'⟩ := h m' session hm'
      rw [hx] at hy
      cases hy
      rw [hid] at hid'
      exact (Option.some.inj hid').symm
    · rintro rfl
      exact hm
  have hcount : v.registrations ids session = ids.count m := by
    unfold registrations List.count
    congr 1
    funext m'
    simp only [honly, beq_eq_decide]
  rw [hcount]
  by_cases hin : m ∈ ids
  · rw [if_pos hin, List.count_eq_one_of_mem hn hin]
  · rw [if_neg hin, List.count_eq_zero_of_not_mem hin]

/-! ## §2. Broadcasts. -/

/-- **A change of space `r` and its announcement to `ids`.**  Before the
broadcast the server is `v₁`; `hstep` says that whoever hears of the change
follows it, and `hlocal` that nobody else hears of it. -/
theorem Viewed.broadcast (h : Viewed v) (hreg : Registered v)
    {r : SpaceRef} {space space' : Space} {ids : List MemberId}
    {event : ServerToClientEvent}
    (sessions : v₁.sessions = v.sessions)
    (channels : v₁.memberIdToChannel = v.memberIdToChannel)
    (spaces : v₁.spaces = v.spaces)
    (hspace : v.spaceHeap.get? r = some space)
    (hspace' : v₁.spaceHeap.get? r = some space')
    (others : ∀ ref, ref ≠ r →
      v₁.spaceHeap.get? ref = v.spaceHeap.get? ref)
    (members : ∀ m session x ref, v₁.Current m session x ref →
      v.members.get? m = some ref)
    (hids : ids.Nodup)
    (hstep : ∀ m session x, v₁.Current m session x r → m ∈ ids ∧
      ∀ w, Shows w m space → Shows (w.receive event) m space')
    (hlocal : ∀ m session x ref, v₁.Current m session x ref → m ∈ ids →
      ref = r) : Viewed (v₁.broadcast ids event) := by
  -- take a client that listens to the mirror afterwards
  intro m session x' ref hcur data isMuted
  obtain ⟨table, heq, hget⟩ := v₁.broadcast_eq event ids
  rw [heq] at hcur ⊢
  have hx' : table.get? session = some x' := hcur.session
  rw [hget, Option.map_eq_some_iff] at hx'
  obtain ⟨x, hx, rfl⟩ := hx'
  have hcur₁ : v₁.Current m session x ref :=
    ⟨hcur.registered, hx, hcur.mirror, hcur.stored, hcur.owning⟩
  -- it did before, since the broadcast registers nobody
  have hold : v.Current m session x ref := by
    refine ⟨?_, ?_, hcur.mirror, ?_, members m session x ref hcur₁⟩
    · rw [← channels]
      exact hcur.registered
    · rw [← sessions]
      exact hx
    · rw [← spaces]
      exact hcur.stored
  have hreg₁ : Registered v₁ := by
    intro m' session' hm'
    rw [channels] at hm'
    rw [sessions]
    exact hreg m' session' hm'
  -- its view from before hears the event once, if it is in the list
  obtain ⟨before, hbefore, hshows⟩ := h m session x ref hold data isMuted
  rw [view_hear, registrations_eq hreg₁ hcur₁.registered hids]
  by_cases hr : ref = r
  · -- its own space: the client hears of the change
    subst hr
    obtain ⟨hin, hfollow⟩ := hstep m session x hcur₁
    rw [hspace] at hbefore
    cases hbefore
    rw [if_pos hin]
    exact ⟨space', hspace', hfollow _ hshows⟩
  · -- another space: the client hears nothing
    rw [if_neg fun hin => hr (hlocal m session x ref hcur₁ hin)]
    exact ⟨before, (others ref hr).trans hbefore, hshows⟩

/-- Only the announcements of channels to themselves: acknowledgements and
transport parameters. -/
theorem Viewed.hear (h : Viewed v)
    (channels : v'.memberIdToChannel = v.memberIdToChannel)
    (spaceHeap : v'.spaceHeap = v.spaceHeap)
    (spaces : v'.spaces = v.spaces) (members : v'.members = v.members)
    (hears : ∀ session x', v'.sessions.get? session = some x' →
      ∃ x l, v.sessions.get? session = some x ∧ x'.auth = x.auth ∧
        x'.mirror = x.mirror ∧ x'.emitted = x.emitted ++ l ∧
        ∀ e ∈ l, ∀ w m space, Shows w m space →
          Shows (w.receive e) m space) : Viewed v' := by
  intro m session x' ref hcur data isMuted
  obtain ⟨x, l, hx, hauth, hmirror, hemitted, hl⟩ :=
    hears session x' hcur.session
  have hold : v.Current m session x ref := by
    refine ⟨?_, hx, ?_, ?_, ?_⟩
    · rw [← channels]
      exact hcur.registered
    · rw [← hmirror]
      exact hcur.mirror
    · rw [← spaces, ← hauth]
      exact hcur.stored
    · rw [← members]
      exact hcur.owning
  obtain ⟨space, hspace, hshows⟩ := h m session x ref hold data isMuted
  refine ⟨space, spaceHeap ▸ hspace, ?_⟩
  have hview : x'.view data isMuted = (x.view data isMuted).receiveAll l := by
    unfold Session.view
    rw [hemitted]
    exact List.foldl_append
  rw [hview]
  -- by induction on what the channel carried in addition
  clear hemitted hview hx hold
  generalize x.view data isMuted = w at hshows
  induction l generalizing w with
  | nil => exact hshows
  | cons e l ih =>
      refine ih (fun e' he' => hl e' (List.mem_cons_of_mem e he')) _ ?_
      exact hl e List.mem_cons_self w m space hshows

/-! ## §3. Callbacks. -/

theorem membersOf_nodup (v : Server) (ref : SpaceRef) :
    (v.membersOf ref).Nodup := by
  unfold membersOf
  cases v.spaceHeap.get? ref with
  | none => exact List.nodup_nil
  | some space => exact space.members.keys_nodup

/-- The members of space `r` whose channel is registered for a stored space
are registered for `r`. -/
def Local (v : Server) (r : SpaceRef) : Prop :=
  ∀ m session x ref, v.Current m session x ref → m ∈ v.membersOf r → ref = r

/-- The owning space of a member that a session holds is local. -/
theorem local_of_held {c : Coord Publisher} (hM : Mirrors c v)
    (hw : Mirrored v) (hchannels : v.Channels)
    (howner : ∀ session uuid m, v.held session = some (uuid, m) →
      c.spaceOf m = some uuid) {session : SessionId} {uuid : Uuid}
    {id : MemberId} {r : SpaceRef}
    (hheld : v.held session = some (uuid, id))
    (hr : v.members.get? id = some r) : v.Local r := by
  intro m session' x ref hcur hin
  obtain ⟨y, hy, -, hid⟩ :=
    hchannels.registered m session' hcur.registered
  have hx := hcur.session
  rw [hx] at hy
  cases hy
  -- `m` and `id` are members of one space
  have hm := howner _ _ _ (System.held_of_memberId hchannels hx hid)
  have hid := howner _ _ _ hheld
  rw [hM.known r m hin] at hm
  rw [hM.known r id (hw.members id r hr), hm] at hid
  have huuid : x.auth.spaceUuid = uuid := Option.some.inj hid
  have hstored := hcur.stored
  rw [huuid] at hstored
  exact hM.current session uuid id r ref hheld hr hstored

/-- A member's state is updated, here and at the clients. -/
theorem Viewed.updateMember (h : Viewed v) (hw : Mirrored v)
    (hreg : Registered v) {memberId : MemberId} {update : MemberStateUpdate}
    (hlocal : ∀ r, v.members.get? memberId = some r → v.Local r)
    (hu : v.updateMember memberId update = some v') : Viewed v' := by
  obtain ⟨r, space, member, hr, hspace, hmember, rfl⟩ := updateMember_eq hu
  have hin : memberId ∈ space.members.keys :=
    JsMap.mem_keys_of_get? hmember
  have hkeys : ∀ m, m ∈ space.members.keys ↔ m ∈ v.membersOf r := by
    intro m
    unfold membersOf
    rw [hspace]
    exact .rfl
  have hcurrent : ∀ {m session x ref}, Current { v with
      spaceHeap := v.spaceHeap.modify r fun s =>
        { s with
          members := s.members.modify memberId fun m =>
            { m with state := member.state.merge update } } }
      m session x ref → v.Current m session x ref :=
    fun hcur => ⟨hcur.registered, hcur.session, hcur.mirror, hcur.stored,
      hcur.owning⟩
  have hspace' : (v.spaceHeap.modify r fun s =>
      { s with
        members := s.members.modify memberId fun m =>
          { m with state := member.state.merge update } }).get? r
        = some { space with
          members := space.members.modify memberId fun m =>
            { m with state := member.state.merge update } } := by
    rw [JsMap.get?_modify_self, hspace]
    rfl
  refine h.broadcast hreg rfl rfl rfl hspace hspace' ?_ ?_
    space.members.keys_nodup ?_ ?_
  · intro ref hne
    exact JsMap.get?_modify_of_ne _ _ hne
  · exact fun m session x ref hcur => hcur.owning
  · intro m session x hcur
    refine ⟨(hkeys m).mpr (hw.members m r hcur.owning), fun w hw => ?_⟩
    exact hw.memberStateUpdate hin _
  · intro m session x ref hcur hm
    exact hlocal r hr m session x ref (hcurrent hcur) ((hkeys m).mp hm)

/-- A member is deleted, here and at the clients. -/
theorem Viewed.memberDeleted (h : Viewed v) (hw : Mirrored v)
    (hreg : Registered v) (serverId : ServerId) {memberId : MemberId}
    (hlocal : ∀ r, v.members.get? memberId = some r → v.Local r) :
    Viewed (v.onMemberDeleted serverId memberId).1 := by
  cases hr : v.members.get? memberId with
  | none =>
      unfold onMemberDeleted
      rw [hr]
      exact h
  | some r =>
      rw [onMemberDeleted_eq serverId hr]
      obtain ⟨space, hspace, hin⟩ :=
        mem_membersOf.mp (hw.members memberId r hr)
      -- what the removal writes, before the broadcast
      have heq : v.removeMember memberId = { v with
          members := v.members.delete memberId
          spaceHeap := v.spaceHeap.modify r fun s =>
            { s with members := s.members.delete memberId } } := by
        unfold removeMember
        rw [hr]
      have hmembers : ∀ m ref,
          (v.members.delete memberId).get? m = some ref →
          m ≠ memberId ∧ v.members.get? m = some ref := by
        intro m ref hget
        rw [JsMap.get?_delete] at hget
        by_cases hself : m = memberId
        · rw [if_pos hself] at hget
          cases hget
        · rw [if_neg hself] at hget
          exact ⟨hself, hget⟩
      have hspace' : (v.removeMember memberId).spaceHeap.get? r
          = some { space with members := space.members.delete memberId } := by
        rw [heq]
        dsimp only
        rw [JsMap.get?_modify_self, hspace]
        rfl
      -- the broadcast goes to those who are left
      refine h.broadcast hreg (v.removeMember_eq memberId).1
        (v.removeMember_eq memberId).2 ?_ hspace hspace' ?_ ?_
        ((membersOf_nodup _ r).filter _) ?_ ?_
      · rw [heq]
      · intro ref hne
        rw [heq]
        exact JsMap.get?_modify_of_ne _ _ hne
      · intro m session x ref hcur
        have howning := hcur.owning
        rw [heq] at howning
        -- they are mirrored, other than the member, and hear that it leaves
        exact (hmembers m ref howning).2
      · intro m session x hcur
        have howning := hcur.owning
        rw [heq] at howning
        obtain ⟨hne, hget⟩ := hmembers m r howning
        refine ⟨List.mem_filter.mpr ⟨?_, by simpa using hne⟩, fun w hw' => ?_⟩
        · rw [membersOf_removeMember hr]
          exact ⟨hw.members m r hget, fun hn => hne hn.1⟩
        -- those in the list listen to this space only
        · exact hw'.memberLeave (Ne.symm hne) hin
      · intro m session x ref hcur hm
        have hm := (List.mem_filter.mp hm).1
        rw [membersOf_removeMember hr] at hm
        refine hlocal r hr m session x ref ?_ hm.1
        have hcur' := hcur
        rw [heq] at hcur'
        exact ⟨hcur'.registered, hcur'.session, hcur'.mirror, hcur'.stored,
          (hmembers m ref hcur'.owning).2⟩

/-- A new member joins the stored space. -/
theorem Viewed.addMember (h : Viewed v) (hw : Mirrored v)
    (hreg : Registered v) {id : MemberId} {uuid : Uuid} {r : SpaceRef}
    (data : MemberData) (state : MemberState)
    (hnew : ∀ ref, id ∉ v.membersOf ref)
    (hunregistered : v.memberIdToChannel.get? id = none)
    (hlocal : v.Local r) (hr : v.spaces.get? uuid = some r) :
    Viewed ((v.addMember id r data state).broadcast
      (((v.addMember id r data state).membersOf r).filter (· ≠ id))
      (.memberJoin ⟨id, data, state⟩)) := by
  have huuid := hw.spaces uuid r hr
  obtain ⟨space, hspace, -⟩ := Option.map_eq_some_iff.mp huuid
  -- the new member listens on no channel yet, so all who do are others
  have hother : ∀ {m session x ref},
      (v.addMember id r data state).Current m session x ref →
      m ≠ id ∧ v.Current m session x ref := by
    intro m session x ref hcur
    have hne : m ≠ id := by
      rintro rfl
      have hregistered : v.memberIdToChannel.get? m = some session :=
        hcur.registered
      rw [hunregistered] at hregistered
      cases hregistered
    have howning : (v.members.set id r).get? m = some ref := hcur.owning
    rw [JsMap.get?_set_of_ne _ _ hne] at howning
    exact ⟨hne, hcur.registered, hcur.session, hcur.mirror, hcur.stored,
      howning⟩
  have hstored : v.uuidOf r ≠ none := by
    rw [huuid]
    simp
  have hmem := membersOf_addMember v id data state hstored r
  have hspace' : (v.addMember id r data state).spaceHeap.get? r
      = some { space with members := space.members.set id ⟨data, state⟩ } := by
    show (v.spaceHeap.modify r _).get? r = _
    rw [JsMap.get?_modify_self, hspace]
    rfl
  -- the broadcast goes to those who were there
  refine h.broadcast hreg rfl rfl rfl hspace hspace' ?_ ?_
    ((membersOf_nodup _ r).filter _) ?_ ?_
  · intro ref hne
    exact JsMap.get?_modify_of_ne _ _ hne
  -- they hear that the member joins, whom their view does not show yet
  · exact fun m session x ref hcur => (hother hcur).2.owning
  · intro m session x hcur
    obtain ⟨hne, hold⟩ := hother hcur
    refine ⟨List.mem_filter.mpr ⟨?_, by simpa using hne⟩, fun w hw' => ?_⟩
    · rw [hmem]
      exact .inl (hw.members m r hold.owning)
    · refine hw'.memberJoin ⟨id, data, state⟩ (Ne.symm hne) fun hin => ?_
      -- those in the list listen to this space only
      exact hnew r (mem_membersOf.mpr ⟨space, hspace, hin⟩)
  · intro m session x ref hcur hm
    have hm := List.mem_filter.mp hm
    rw [hmem] at hm
    obtain ⟨hne, hold⟩ := hother hcur
    exact hlocal m session x ref hold
      (hm.1.resolve_right fun hself => hne hself.1)

/-- What the invariants so far say of one server. -/
structure Sound (c : Coord Publisher) (v : Server) : Prop where
  channels : v.Channels
  mirrored : v.Mirrored
  mirrors : v.Mirrors c
  owner : ∀ session uuid m, v.held session = some (uuid, m) →
    c.spaceOf m = some uuid

/-- What a server relays keeps it sound. -/
theorem Sound.relays {c : Coord Publisher} (h : Sound c v)
    (hI : MemberWF c) (hr : System.Relays c v v') : Sound c v' where
  channels := h.channels.keeps (relays_keeps h.channels.registered hr)
  mirrored := h.mirrored.relays h.channels.registered hr
  mirrors := h.mirrors.relays h.mirrored hI h.channels.registered h.owner hr
  owner session uuid m hm := by
    rw [relays_held h.channels.registered hr] at hm
    exact h.owner session uuid m hm

/-- The session of a registered member holds it. -/
theorem held_of_registered (h : v.Channels) {m : MemberId}
    {session : SessionId} (hm : v.memberIdToChannel.get? m = some session) :
    ∃ uuid, v.held session = some (uuid, m) := by
  obtain ⟨x, hx, -, hid⟩ := h.registered m session hm
  exact ⟨_, System.held_of_memberId h hx hid⟩

/-- An update of one session that its client's members do not depend on. -/
theorem Viewed.modify (h : Viewed v) (session : SessionId)
    {f : Session → Session} (hauth : ∀ x, (f x).auth = x.auth)
    (hmirror : ∀ x, (f x).mirror = x.mirror)
    (hemitted : ∀ x, (f x).emitted = x.emitted) :
    Viewed { v with sessions := v.sessions.modify session f } := by
  refine h.hear rfl rfl rfl rfl fun session' x' hx' => ?_
  have hx' : (v.sessions.modify session f).get? session' = some x' := hx'
  rcases JsMap.get?_modify_cases hx' with ⟨heq, x, hx, rfl⟩ | ⟨-, hx⟩
  · refine ⟨x, [], heq ▸ hx, hauth x, hmirror x, ?_, ?_⟩
    · rw [hemitted, List.append_nil]
    · exact fun e he => absurd he List.not_mem_nil
  · refine ⟨x', [], hx, rfl, rfl, (List.append_nil _).symm, ?_⟩
    exact fun e he => absurd he List.not_mem_nil

theorem Viewed.reject (h : Viewed v) (session : SessionId)
    (error : String) : Viewed (v.reject session error) := by
  unfold Server.reject
  apply h.modify session
  · intro x
    split <;> rfl
  · intro x
    split <;> rfl
  · intro x
    split <;> rfl

theorem Viewed.setPhase (h : Viewed v) (session : SessionId)
    (phase : Phase) : Viewed (v.setPhase session phase) :=
  h.modify session (fun _ => rfl) (fun _ => rfl) fun _ => rfl

theorem Viewed.emit (h : Viewed v) (session : SessionId)
    {event : ServerToClientEvent} (he : event.kind = .ack) :
    Viewed (v.emit session event) := by
  refine h.hear rfl rfl rfl rfl fun session' x' hx' => ?_
  rw [emit_get, Option.map_eq_some_iff] at hx'
  obtain ⟨x, hx, rfl⟩ := hx'
  refine ⟨x, _, hx, rfl, rfl, rfl, fun e hmem w m space hw => ?_⟩
  split at hmem
  · rw [List.mem_singleton.mp hmem, receive_ack he]
    exact hw
  · cases hmem

/-- What is relayed reaches the mirror and the clients alike. -/
theorem Viewed.onSpaceUpdate {c : Coord Publisher} (h : Viewed v)
    (hs : Sound c v) (uuid : Uuid) (update : SpaceUpdateC) :
    Viewed (v.onSpaceUpdate uuid update) := by
  unfold Server.onSpaceUpdate
  split
  · rename_i memberId source options
    split
    · obtain ⟨table, heq, hget⟩ := v.emitTo_eq
        (.transportParams (source.getD memberId) options) memberId
      rw [heq]
      refine h.hear rfl rfl rfl rfl fun session x' hx' => ?_
      have hx' : table.get? session = some x' := hx'
      rw [hget, Option.map_eq_some_iff] at hx'
      obtain ⟨x, hx, rfl⟩ := hx'
      refine ⟨x, _, hx, rfl, rfl, rfl, fun e hmem w m space hw => ?_⟩
      rw [(List.mem_replicate.mp hmem).2]
      exact hw.transportParams _ _
    · exact h
  · rename_i memberId
    split
    · rename_i hcond
      obtain ⟨session, hsession⟩ := JsMap.has_iff.mp hcond.2
      obtain ⟨owner, hheld⟩ := held_of_registered hs.channels hsession
      cases hu : v.updateMember memberId ⟨none, some true⟩ with
      | none => exact h
      | some v' =>
          refine h.updateMember hs.mirrored hs.channels.registered ?_ hu
          intro r hr
          exact local_of_held hs.mirrors hs.mirrored hs.channels hs.owner
            hheld hr
    · exact h

/-- What a server hears from the coordinator reaches mirror and clients alike.
By induction on the updates. -/
theorem Viewed.hears {c : Coord Publisher} (hI : MemberWF c) :
    ∀ (heard : List (Out Publisher)) {v : Server}, Viewed v → Sound c v →
      Viewed (heard.foldl System.hears v)
  | [], _, h, _ => h
  | o :: heard, v, h, hs => by
      have hone : Sound c (System.hears v o) := hs.relays hI (.heard [o])
      refine Viewed.hears hI heard ?_ hone
      cases o with
      | spaceUpdate uuid update => exact h.onSpaceUpdate hs uuid update
      | _ => exact h

/-- A new mirror is nobody's yet. -/
theorem Viewed.snapshot (h : Viewed v) (hw : Mirrored v) (uuid : Uuid)
    (clientSideSpace : ClientSideSpace) (caps : Json) :
    Viewed (clientSideSpace.members.foldl
      (fun v' m => v'.addMember m.id v.spaceRefGen m.data m.state)
      (v.addSpace uuid clientSideSpace.data caps)) := by
  obtain ⟨-, hspaces, -, -, hmembers⟩ :=
    hw.snapshot uuid clientSideSpace caps
  obtain ⟨hsessions, hchannels⟩ := mirror_sessions uuid clientSideSpace caps v
  intro m session x ref hcur data isMuted
  have hx := hcur.session
  rw [hsessions] at hx
  have hne : ref ≠ v.spaceRefGen := by
    have hlt := hw.fresh ref (hw.mirrors session x ref hx hcur.mirror)
    exact Nat.ne_of_lt hlt
  have hold : v.Current m session x ref := by
    refine ⟨?_, hx, hcur.mirror, ?_, ?_⟩
    · rw [← hchannels]
      exact hcur.registered
    · have hstored := hcur.stored
      rw [hspaces, JsMap.get?_set] at hstored
      split at hstored
      · cases hstored
        exact absurd rfl hne
      · exact hstored
    · have howning := hcur.owning
      rw [hmembers] at howning
      split at howning
      · cases howning
        exact absurd rfl hne
      · exact howning
  obtain ⟨space, hspace, hshows⟩ := h m session x ref hold data isMuted
  refine ⟨space, ?_, hshows⟩
  rw [addMembers_heap hne]
  show (v.spaceHeap.set v.spaceRefGen _).get? ref = some space
  rw [JsMap.get?_set_of_ne _ _ hne, hspace]

/-- The same for a list of relayed messages. -/
theorem Viewed.relays {c : Coord Publisher} (h : Viewed v)
    (hI : MemberWF c) (hs : Sound c v) (hr : System.Relays c v v') :
    Viewed v' := by
  cases hr with
  | heard heard => exact Viewed.hears hI heard h hs
  | @acked _ _ _ e session he heard =>
      have hack : Sound c (v.emit session e) :=
        hs.relays hI (.acked session he [])
      exact Viewed.hears hI heard (h.emit session (kind_ackEvent he)) hack
  | rejected session error => exact h.reject session error
  | spacePrepared caps hx hp hsp =>
      rw [onSpacePrepared_eq]
      apply Viewed.setPhase
      split
      · exact h
      · exact h.snapshot hs.mirrored _ _ caps
  | spaceDeleted uuid =>
      intro m session x ref hcur
      refine h m session x ref ⟨hcur.registered, hcur.session, hcur.mirror,
        ?_, hcur.owning⟩
      exact JsMap.get?_of_get?_delete hcur.stored

/-- A new member is added to the mirror, and announced. -/
theorem Viewed.memberPrepared {c : Coord Publisher} (h : Viewed v)
    (hI : MemberWF c) (hs : Sound c v) (session : SessionId) (uuid : Uuid)
    (data : MemberData) (state : MemberState) :
    Viewed (v.onMemberPrepared session uuid data state c.memberIdGen) := by
  have hnew : ∀ ref, c.memberIdGen ∉ v.membersOf ref := by
    intro ref hin
    have hknown := hs.mirrors.known ref _ hin
    rw [hI.spaceOf_new] at hknown
    exact uuidOf_of_mem hin hknown.symm
  have hunregistered : v.memberIdToChannel.get? c.memberIdGen = none := by
    cases hget : v.memberIdToChannel.get? c.memberIdGen with
    | none => rfl
    | some session' =>
        obtain ⟨uuid', hheld⟩ := held_of_registered hs.channels hget
        have hspace := hs.owner _ _ _ hheld
        rw [hI.spaceOf_new] at hspace
        cases hspace
  unfold onMemberPrepared
  apply Viewed.setPhase
  split
  · exact h
  · split
    · exact h
    · rename_i r hr
      refine h.addMember hs.mirrored hs.channels.registered data state hnew
        hunregistered ?_ hr
      -- the space the member joins is the stored one
      intro m session' x ref hcur hin
      obtain ⟨y, hy, -, hid⟩ :=
        hs.channels.registered m session' hcur.registered
      have hx := hcur.session
      rw [hx] at hy
      cases hy
      have hm := hs.owner _ _ _ (System.held_of_memberId hs.channels hx hid)
      rw [hs.mirrors.known r m hin, hs.mirrored.spaces uuid r hr] at hm
      have hstored := hcur.stored
      rw [← Option.some.inj hm, hr] at hstored
      exact (Option.some.inj hstored).symm

/-! ## §4. Server functions. -/

/-- Acknowledgements do not count for the client's view. -/
theorem receiveAll_outline (l : List ServerToClientEvent) (w : Web.Space) :
    w.receiveAll l = w.receiveAll (outline l) := by
  induction l generalizing w with
  | nil => rfl
  | cons e l ih =>
      unfold outline
      by_cases he : e.kind = .ack
      · rw [List.filter_cons_of_neg (by simp [he])]
        show (w.receive e).receiveAll l = _
        rw [receive_ack he]
        exact ih w
      · rw [List.filter_cons_of_pos (by simp [he])]
        exact ih (w.receive e)

/-- A change of a session that is not registered concerns no view. -/
theorem Viewed.puts_unregistered (h : Viewed v) (hreg : Registered v)
    {session : SessionId} {x x' : Session} (hp : Puts v session x' v')
    (hx : v.sessions.get? session = some x) (hs : x.stage ≠ .joined) :
    Viewed v' := by
  have hothers := hp.others
  obtain ⟨table, rfl⟩ := hp.rest
  intro m session' y ref hcur
  have hne : session' ≠ session := by
    rintro rfl
    obtain ⟨y, hy, hjoined, -⟩ := hreg m session' hcur.registered
    rw [hx] at hy
    cases hy
    exact hs hjoined
  have hy : v.sessions.get? session' = some y := by
    rw [← hothers session' hne]
    exact hcur.session
  exact h m session' y ref
    ⟨hcur.registered, hy, hcur.mirror, hcur.stored, hcur.owning⟩

/-- A session has changed, but nothing its client's view depends on. -/
theorem Viewed.puts_same (h : Viewed v) {session : SessionId}
    {x x' : Session} (hp : Puts v session x' v')
    (hx : v.sessions.get? session = some x) (ha : x'.auth = x.auth)
    (hm : x'.mirror = x.mirror) (he : x'.emitted = x.emitted) :
    Viewed v' := by
  have hself := hp.self
  have hothers := hp.others
  obtain ⟨table, rfl⟩ := hp.rest
  refine h.hear rfl rfl rfl rfl fun session' y hy => ?_
  by_cases heq : session' = session
  · rw [heq, hself] at hy
    cases hy
    refine ⟨x, [], heq ▸ hx, ha, hm, ?_, ?_⟩
    · rw [he, List.append_nil]
    · exact fun e he => absurd he List.not_mem_nil
  · rw [hothers session' heq] at hy
    refine ⟨y, [], hy, rfl, rfl, (List.append_nil _).symm, ?_⟩
    exact fun e he => absurd he List.not_mem_nil

/-- **The channel is registered right after the snapshot.** -/
theorem Viewed.joined (h : Viewed v) (hchannels : v.Channels)
    {session : SessionId} {x : Session} {memberId : MemberId} {space : Space}
    (hx : v.sessions.get? session = some x)
    (hphase : x.phase = .preparingMember (some (.ok memberId)))
    (hspace : v.getSpace x.auth.spaceUuid = some space)
    (hp : Puts { v with
        memberIdToChannel := v.memberIdToChannel.set memberId session }
      session
      { x.hear [.spaceInit memberId space.routerRtpCapabilities
          (getClientSideSpace space)] with
        listening := some memberId, memberId := some memberId,
        phase := .joined, mirror := v.spaces.get? x.auth.spaceUuid } v') :
    Viewed v' := by
  have hstage : x.stage = .preparingMember := by
    unfold Session.stage
    rw [hphase]
  have hself := hp.self
  have hothers := hp.others
  -- take a client whose channel is registered afterwards
  obtain ⟨table, rfl⟩ := hp.rest
  intro m session' y ref hcur data isMuted
  have hregistered : (v.memberIdToChannel.set memberId session).get? m
      = some session' := hcur.registered
  rw [JsMap.get?_set] at hregistered
  by_cases hm : m = memberId
  · -- the new channel
    rw [if_pos hm] at hregistered
    cases hregistered
    have hy := hcur.session
    dsimp only at hy hself
    rw [hself] at hy
    cases hy
    obtain ⟨ref', href', hheap⟩ := Option.bind_eq_some_iff.mp hspace
    have hmirror : v.spaces.get? x.auth.spaceUuid = some ref := hcur.mirror
    rw [href'] at hmirror
    cases hmirror
    refine ⟨space, hheap, ?_⟩
    -- its channel has carried the success only, so its view is the initial one
    have ho := hchannels.orderly session x hx
    unfold Session.Orderly at ho
    rw [hstage] at ho
    have hbefore : x.view data isMuted = Web.Space.initial data isMuted := by
      unfold Session.view
      rw [receiveAll_outline, ho.2]
      rfl
    show Shows ((x.hear _).view data isMuted) m space
    rw [view_hear, hbefore, hm]
    exact shows_init (w := Web.Space.initial data isMuted) rfl
      (fun _ => rfl) (fun _ hw => absurd hw List.not_mem_nil) memberId _ space
  -- the other channels are of sessions that had joined before
  · rw [if_neg hm] at hregistered
    have hne : session' ≠ session := by
      rintro rfl
      obtain ⟨z, hz, hjoined, -⟩ :=
        hchannels.registered m session' hregistered
      rw [hx] at hz
      cases hz
      rw [hstage] at hjoined
      cases hjoined
    have hy : v.sessions.get? session' = some y := by
      rw [← show table.get? session' = v.sessions.get? session' from
        hothers session' hne]
      exact hcur.session
    exact h m session' y ref
      ⟨hregistered, hy, hcur.mirror, hcur.stored, hcur.owning⟩ data isMuted

/-- A session that goes on is shown the mirror, or nothing new. -/
theorem Viewed.resume (h : Viewed v) (hchannels : v.Channels)
    {serverId : ServerId} {session : SessionId} {x : Session}
    {p : Server × Option Request} (hx : v.sessions.get? session = some x)
    (hres : v.resume serverId session x = some p) : Viewed p.1 := by
  have hreg := hchannels.registered
  have hnot : (∀ e, x.phase ≠ .failed e) → x.phase ≠ .joined →
      x.stage ≠ .joined := by
    intro _ hj hs
    unfold Session.stage at hs
    split at hs
    · cases hs
    · cases hs
    · exact hj ‹_›
    · cases hs
  cases resumes_of_resume hx hres with
  | rejected hp hputs =>
      refine h.puts_unregistered hreg hputs hx (hnot ?_ ?_)
      · rcases hp with hp | hp <;> simp [hp]
      · rcases hp with hp | hp <;> simp [hp]
  | spacePrepared hp _ hputs =>
      exact h.puts_unregistered hreg hputs hx
        (hnot (by simp [hp]) (by simp [hp]))
  | spaceGone hp _ hputs =>
      exact h.puts_unregistered hreg hputs hx
        (hnot (by simp [hp]) (by simp [hp]))
  | unmirrored hp _ hputs =>
      exact h.puts_unregistered hreg hputs hx
        (hnot (by simp [hp]) (by simp [hp]))
  | joined hp hs hputs => exact h.joined hchannels hx hp hs hputs

/-- The id a session listens for is the one it was given. -/
theorem held_of_listening (hprep : Prepares v) {session : SessionId}
    {x : Session} {m : MemberId} (hx : v.sessions.get? session = some x)
    (hm : x.listening = some m) :
    v.held session = some (x.auth.spaceUuid, m) := by
  have hholds : x.holds = some m := by
    unfold Session.holds
    split
    · rename_i memberId hp
      have hnone := hprep session x hx (.inr (by simp [Session.stage, hp]))
      rw [hnone] at hm
      cases hm
    · exact hm
  unfold held
  rw [hx]
  show x.holds.map _ = _
  rw [hholds]
  rfl

/-- Whatever a client or a session does at a server. -/
theorem Viewed.call {c : Coord Publisher} {serverId : ServerId}
    {a : SystemAction} {p : Server × Option Request} (h : Viewed v)
    (hs : Sound c v) (hprep : Prepares v)
    (hfresh : ∀ session x, v.sessions.get? session = some x →
      session < v.sessionIdGen)
    (hc : System.ServerCall serverId v a p) : Viewed p.1 := by
  cases hc with
  | connect auth =>
      obtain ⟨result, table, heq, hget, -⟩ := v.start_eq serverId auth
      rw [heq]
      intro m session x ref hcur
      obtain ⟨y, hy, -⟩ := hs.channels.registered m session hcur.registered
      have hx : table.get? session = some x := hcur.session
      rw [hget, if_neg (Nat.ne_of_lt (hfresh session y hy))] at hx
      exact h m session x ref
        ⟨hcur.registered, hx, hcur.mirror, hcur.stored, hcur.owning⟩
  | resume hx hres => exact h.resume hs.channels hx hres
  | @close session x hx _ =>
      cases hm : x.memberId with
      | none =>
          exact h.puts_same (close_eq_none serverId hx hm).1 hx rfl rfl rfl
      | some memberId =>
          have hclosed : Viewed { v with
              memberIdToChannel := v.memberIdToChannel.delete memberId } := by
            intro m session' y ref hcur
            exact h m session' y ref
              ⟨JsMap.get?_of_get?_delete hcur.registered, hcur.session,
                hcur.mirror, hcur.stored, hcur.owning⟩
          exact hclosed.puts_same (close_eq_some serverId hx hm).1 hx rfl rfl
            rfl
  | @updateMemberState session x memberId newState cId hx _ hm =>
      have hheld := held_of_listening hprep hx hm
      unfold updateMemberState
      refine Viewed.emit ?_ session rfl
      cases hu : v.updateMember memberId newState with
      | none => exact h
      | some v' =>
          refine h.updateMember hs.mirrored hs.channels.registered ?_ hu
          intro r hr
          exact local_of_held hs.mirrors hs.mirrored hs.channels hs.owner
            hheld hr
  | forward => exact h

end Server

/-! ## §5. Every reachable state. -/

namespace System

variable {G : Guard System SystemAction (Out Publisher)}

/-- At every point of a run the servers are sound. -/
theorem Point.sound {s : System} {reqs : List Request}
    (h : Point G s reqs) {serverId : ServerId} {v : Server}
    (hv : s.servers.get? serverId = some v) : v.Sound s.coordinator where
  channels := h.channels hv
  mirrored := h.mirrored serverId v hv
  mirrors := h.mirrors serverId v hv
  owner session uuid m hm := by
    apply h.owners.space serverId session
    unfold Holds held
    rwa [hv]

/-- A move of the coordinator keeps the views. -/
theorem Move.viewed {sync : Bool} {s s' : System} {b : Request}
    {reqs later : List Request} (hpoint : Point G s later)
    (hready : Ready s sync b) (hm : Move s b s' reqs)
    (hb : ∀ S m, b = .removeMemberRequest m (.deleteMember S m) →
      ∃ session uuid, s.Holds S session uuid m)
    (h : ∀ S v, s.servers.get? S = some v → v.Viewed)
    (S : ServerId) (v' : Server) (hv' : s'.servers.get? S = some v') :
    v'.Viewed := by
  have hI := (coordWF_reachable hpoint.reachable).member
  cases hm.transfers hready with
  | relayed _ hv =>
      obtain ⟨v, hget, hr⟩ := hv S v' hv'
      exact (h S v hget).relays hI (hpoint.sound hget) hr
  | @removed S₀ memberId _ _ _ _ _ hv =>
      rw [hv] at hv'
      rcases JsMap.get?_modify_cases hv' with ⟨rfl, v, hget, rfl⟩ | ⟨-, hget⟩
      · have hs := hpoint.sound hget
        obtain ⟨session, uuid, hold⟩ := hb S memberId rfl
        refine (h S v hget).memberDeleted hs.mirrored hs.channels.registered S
          fun r hr => ?_
        exact Server.local_of_held hs.mirrors hs.mirrored hs.channels hs.owner
          (hold.server hget) hr
      · exact h S v' hget
  | added _ _ _ _ hv =>
      rw [hv] at hv'
      rcases JsMap.get?_modify_cases hv' with ⟨rfl, v, hget, rfl⟩ | ⟨-, hget⟩
      · exact (h S v hget).memberPrepared hI (hpoint.sound hget) _ _ _ _
      · exact h S v' hget

/-- At every point of a run every client shows its mirror. -/
theorem Point.viewed {s : System} {reqs : List Request}
    (h : Point G s reqs) : ∀ serverId v,
      s.servers.get? serverId = some v → v.Viewed := by
  induction h with
  | initial => exact fun _ _ hv => nomatch hv
  | flushed out _ ih => exact ih
  | started _ _ ih =>
      exact JsMap.forall_set ih fun _ _ _ _ hcur =>
        nomatch hcur.registered
  | called h _ hv hc ih =>
      refine JsMap.forall_set ih ?_
      exact (ih _ _ hv).call (h.sound hv) (h.prepares _ _ hv)
        (h.linked.fresh _ _ · · hv) hc
  | published h hready hm _ ih =>
      refine hm.viewed h hready ?_ ih
      rintro S m rfl
      exact h.owners.removing S m List.mem_cons_self
  | coordinated h _ hready hm _ ih =>
      refine hm.viewed h hready ?_ ih
      rintro S m rfl
      cases hready with
      | coordinator ha => cases ha

/-! ## §6. As long as the space is still stored. -/

/-- From `s` to `t` nobody is registered anew and the stored spaces stay. -/
def Follows (s t : System) : Prop :=
  ∀ S v', t.servers.get? S = some v' → ∃ v, s.servers.get? S = some v ∧
    v.Keeps v' ∧ v'.spaces = v.spaces

theorem hears_spaces (heard : List (Out Publisher)) (v : Server) :
    (heard.foldl hears v).spaces = v.spaces :=
  (Server.hears_mirrorFrame heard v).spaces

/-- A snapshot is mirrored under a uuid that was free. -/
theorem onSpacePrepared_spaces (v : Server) (session : SessionId)
    (uuid' : Uuid) (clientSideSpace : ClientSideSpace) (caps : Json)
    {uuid : Uuid} {ref : SpaceRef} (h : v.spaces.get? uuid = some ref) :
    (v.onSpacePrepared session uuid' clientSideSpace caps).spaces.get? uuid
      = some ref := by
  rw [Server.onSpacePrepared_eq]
  show (Server.spaces (if _ then v else _)).get? uuid = some ref
  split
  · exact h
  · rename_i hn
    have hne : uuid ≠ uuid' := by
      rintro rfl
      exact hn (JsMap.has_iff.mpr ⟨ref, h⟩)
    have hfold : ∀ (l : List ClientSideMember) (u : Server) (r : SpaceRef),
        (l.foldl (fun v' m => v'.addMember m.id r m.data m.state)
          u).spaces = u.spaces := by
      intro l
      induction l with
      | nil => exact fun _ _ => rfl
      | cons a l ih => exact fun u r => ih (u.addMember _ r _ _) r
    rw [hfold]
    show (v.spaces.set uuid' _).get? uuid = some ref
    rw [JsMap.get?_set_of_ne _ _ hne, h]

/-- A stored space is not replaced by another one at once. -/
theorem Relays.spaces_kept {c : Coord Publisher} {v v' : Server}
    (hr : Relays c v v') {uuid : Uuid} {ref : SpaceRef}
    (h : v.spaces.get? uuid = some ref) :
    v'.spaces.get? uuid = none ∨ v'.spaces.get? uuid = some ref := by
  cases hr with
  | heard heard =>
      rw [hears_spaces]
      exact .inr h
  | acked session he heard =>
      rw [hears_spaces]
      exact .inr h
  | rejected session error => exact .inr h
  | spacePrepared => exact .inr (onSpacePrepared_spaces v _ _ _ _ h)
  | spaceDeleted uuid' =>
      show (v.spaces.delete uuid').get? uuid = none ∨
        (v.spaces.delete uuid').get? uuid = some ref
      rw [JsMap.get?_delete]
      split
      · exact .inl rfl
      · exact .inr h

theorem onMemberPrepared_spaces (v : Server) (session : SessionId)
    (uuid : Uuid) (data : MemberData) (state : MemberState)
    (id : MemberId) :
    (v.onMemberPrepared session uuid data state id).spaces = v.spaces := by
  unfold Server.onMemberPrepared
  show Server.spaces (if _ then v else _) = v.spaces
  split
  · rfl
  · split
    · rfl
    · exact (Server.broadcast_mirrorFrame _ _ _).spaces

theorem onMemberDeleted_spaces (v : Server) (serverId : ServerId)
    (memberId : MemberId) :
    (v.onMemberDeleted serverId memberId).1.spaces = v.spaces := by
  cases hr : v.members.get? memberId with
  | none =>
      unfold Server.onMemberDeleted
      rw [hr]
  | some r =>
      rw [Server.onMemberDeleted_eq serverId hr]
      refine (Server.broadcast_mirrorFrame _ _ _).spaces.trans ?_
      unfold Server.removeMember
      rw [hr]

/-- What a move does to the stored spaces of a server. -/
inductive StoredChange (s : System) (S : ServerId) (v : Server) :
    Request → Server → Prop
  | same {b : Request} {v' : Server} (h : v'.spaces = v.spaces) :
      StoredChange s S v b v'
  | stored {i : Nat} (session : SessionId) (uuid : Uuid)
      (clientSideSpace : ClientSideSpace) (caps : Json) :
      StoredChange s S v (.resume i)
        (v.onSpacePrepared session uuid clientSideSpace caps)
  | removed {i : Nat} {uuid : Uuid}
      (hi : s.coordinator.tasks[i]? = some
        (.transitioned (.unsubscribe (.deleteSpace S uuid)) (.ok ()))) :
      StoredChange s S v (.resume i) (v.removeSpace uuid)

/-- What one move does to the mirrors of a server. -/
theorem Move.storedChange {s s' : System} {b : Request}
    {reqs : List Request} (h : Move s b s' reqs) {S : ServerId}
    {v v' : Server} (hv : s.servers.get? S = some v)
    (hv' : s'.servers.get? S = some v') : StoredChange s S v b v' := by
  -- most moves store no space on the server
  have hsame : s'.servers = s.servers → StoredChange s S v b v' := by
    intro heq
    rw [heq, hv] at hv'
    cases hv'
    exact .same rfl
  -- the others change one server, which may be another one
  have hmodify : ∀ {S' : ServerId} {f : Server → Server},
      s'.servers = s.servers.modify S' f →
      (S' = S → StoredChange s S v b (f v)) → StoredChange s S v b v' := by
    intro S' f heq hf
    rw [heq] at hv'
    rcases JsMap.get?_modify_cases hv' with ⟨rfl, u, hu, rfl⟩ | ⟨-, hu⟩
    · rw [hv] at hu
      cases hu
      exact hf rfl
    · rw [hv] at hu
      cases hu
      exact .same rfl
  -- by the kind of move: a snapshot stores a space, an unsubscribe removes one
  cases h with
  | quiet _ _ heq => exact hsame heq
  | asked _ _ _ _ heq => exact hsame heq
  | forwarded _ _ heq => exact hsame heq
  | unsubscribing _ heq => exact hsame heq
  | abandoned _ heq => exact hsame heq
  | updateNacked _ _ heq => exact hsame heq
  | rejected _ _ heq =>
      exact hmodify (f := fun v => v.reject _ _) heq fun _ => .same rfl
  | removed _ _ _ heq =>
      exact hmodify heq fun _ => .same (onMemberDeleted_spaces v _ _)
  | subscribed _ _ _ _ heq => exact hmodify heq fun _ => .stored _ _ _ _
  | unsubscribed hi _ heq =>
      refine hmodify heq fun hS => ?_
      subst hS
      exact .removed hi
  | added _ _ _ _ heq =>
      exact hmodify heq fun _ => .same (onMemberPrepared_spaces v _ _ _ _ _)
  | announced _ _ _ heq =>
      rw [heq, announce, JsMap.get?_mapVal, hv, Option.map_some] at hv'
      cases hv'
      exact .same (hears_spaces _ v)
  | updated _ _ _ _ heq =>
      rw [heq, announce, JsMap.get?_mapVal] at hv'
      obtain ⟨u, hu, rfl⟩ := Option.map_eq_some_iff.mp hv'
      refine .same ((hears_spaces _ u).trans ?_)
      split at hu
      · rw [hv] at hu
        cases hu
        rfl
      · rcases JsMap.get?_modify_cases hu with ⟨rfl, w, hw, rfl⟩ | ⟨-, hw⟩
        · rw [hv] at hw
          cases hw
          rfl
        · rw [hv] at hw
          cases hw
          rfl

/-- Inside `publish`, no space is stored or removed. -/
theorem Move.follows {s s' : System} {b : Request} {reqs : List Request}
    (hready : Ready s true b) (h : Move s b s' reqs)
    (hchannels : ∀ S v, s.servers.get? S = some v → v.Channels) :
    Follows s s' := by
  intro S v' hv'
  obtain ⟨v, hv, hcall⟩ := h.callback hready hv'
  refine ⟨v, hv, Server.callback_keeps (hchannels S v hv).registered hcall, ?_⟩
  cases h.storedChange hv hv' with
  | same h => exact h
  | stored | removed => exact nomatch hready.late rfl

theorem Follows.refl (s : System) : Follows s s :=
  fun _ v' hv' => ⟨v', hv', .refl v', rfl⟩

theorem Follows.trans {s t u : System} (h : Follows s t)
    (h' : Follows t u) : Follows s u := by
  intro S v'' hv''
  obtain ⟨v', hv', hk', hs'⟩ := h' S v'' hv''
  obtain ⟨v, hv, hk, hs⟩ := h S v' hv'
  exact ⟨v, hv, hk.trans hk', hs'.trans hs⟩

/-- Mirrors follow as the requests of a step are published. -/
theorem Follows.published (s : System) :
    Published fun t reqs => Point anyStep t reqs ∧ Follows s t where
  linked h := h.1.linked
  reachable h := h.1.reachable
  published h hready hm hr := ⟨h.1.published hready hm hr,
    h.2.trans (hm.follows hready fun _ _ => h.1.channels)⟩

/-- Session `session` is registered for `m` on `v`. -/
def Registers (v : Server) (m : MemberId) (session : SessionId)
    (x : Session) : Prop :=
  v.memberIdToChannel.get? m = some session ∧
    v.sessions.get? session = some x

/-- The record `x'` has the space and the mirror of `x`. -/
def SameMirror (x x' : Session) : Prop :=
  x'.auth = x.auth ∧ x'.mirror = x.mirror

/-- A channel registered now was registered before. -/
theorem Registers.of_keeps {v v' : Server} {m : MemberId}
    {session : SessionId} {x' : Session} (hk : v.Keeps v')
    (h : Registers v' m session x') :
    ∃ x, Registers v m session x ∧ SameMirror x x' := by
  obtain ⟨hm, hx'⟩ := h
  rw [hk.channels] at hm
  obtain ⟨x, hx, hxy⟩ := hk.before hx'
  refine ⟨x, ⟨hm, hx⟩, ?_, ?_⟩
  · rw [hxy.rest]
  · rw [hxy.rest]

/-- One session has changed, without being registered. -/
theorem Registers.of_puts {v v' : Server} {m : MemberId}
    {session session' : SessionId} {x x₁ y : Session}
    (hchannels : v.Channels) (hp : Server.Puts v session x₁ v')
    (hx : v.sessions.get? session = some x)
    (hs : x.stage ≠ .joined ∨ SameMirror x x₁)
    (h : Registers v' m session' y) :
    ∃ x', Registers v m session' x' ∧ SameMirror x' y := by
  have hself := hp.self
  have hothers := hp.others
  obtain ⟨table, rfl⟩ := hp.rest
  obtain ⟨hm, hy⟩ := h
  by_cases heq : session' = session
  · subst heq
    rcases hs with hs | hs
    · obtain ⟨z, hz, hjoined, -⟩ := hchannels.registered m session' hm
      rw [hx] at hz
      cases hz
      exact absurd hjoined hs
    · rw [hself] at hy
      cases hy
      exact ⟨x, ⟨hm, hx⟩, hs⟩
  · rw [hothers session' heq] at hy
    exact ⟨y, ⟨hm, hy⟩, rfl, rfl⟩

/-- A server function registers a channel with the stored space, if it
registers one: that of a session that was given its member. -/
theorem ServerCall.registers {serverId : ServerId} {v : Server}
    {a : SystemAction} {p : Server × Option Request} (hchannels : v.Channels)
    (hfresh : ∀ session x, v.sessions.get? session = some x →
      session < v.sessionIdGen)
    (hc : ServerCall serverId v a p) {m : MemberId} {session : SessionId}
    {y : Session} (h : Registers p.1 m session y) :
    (∃ x, Registers v m session x ∧ SameMirror x y) ∨
      ∃ ref, v.spaces.get? y.auth.spaceUuid = some ref ∧
        y.mirror = some ref ∧ a = .resume serverId session ∧
        ∃ x id, v.sessions.get? session = some x ∧
          x.phase = .preparingMember (some (.ok id)) ∧ y.auth = x.auth := by
  -- a session that registers was registered before, or joins now
  cases hc with
  | connect auth =>
      obtain ⟨result, table, heq, hget, -⟩ := v.start_eq serverId auth
      rw [heq] at h
      obtain ⟨hm, hy⟩ := h
      obtain ⟨x, hx, -⟩ := hchannels.registered m session hm
      have hy : table.get? session = some y := hy
      rw [hget, if_neg (Nat.ne_of_lt (hfresh session x hx))] at hy
      exact .inl ⟨y, ⟨hm, hy⟩, rfl, rfl⟩
  -- it goes on: only where it joins is it registered
  | @resume session' x p hx hres =>
      have hstage : ∀ {r}, x.phase = .preparingSpace r →
          x.stage ≠ .joined := by
        intro r hp hs
        simp [Session.stage, hp] at hs
      have hstage' : ∀ {r}, x.phase = .preparingMember r →
          x.stage ≠ .joined := by
        intro r hp hs
        simp [Session.stage, hp] at hs
      cases Server.resumes_of_resume hx hres with
      | rejected hp hputs =>
          refine .inl (h.of_puts hchannels hputs hx (.inl ?_))
          exact hp.elim hstage hstage'
      | spacePrepared hp _ hputs =>
          exact .inl (h.of_puts hchannels hputs hx (.inl (hstage hp)))
      | spaceGone hp _ hputs =>
          exact .inl (h.of_puts hchannels hputs hx (.inl (hstage hp)))
      | unmirrored hp _ hputs =>
          exact .inl (h.of_puts hchannels hputs hx (.inl (hstage' hp)))
      -- the session that joins takes the mirror stored under its space
      | @joined v' memberId space hp hs hputs =>
          have hself := hputs.self
          have hothers := hputs.others
          obtain ⟨table, rfl⟩ := hputs.rest
          obtain ⟨hm, hy⟩ := h
          by_cases heq : session = session'
          · subst heq
            rw [hself] at hy
            cases hy
            obtain ⟨ref, href, -⟩ := Option.bind_eq_some_iff.mp hs
            exact .inr ⟨ref, href, href, rfl, x, memberId, hx, hp, rfl⟩
          · -- another channel, as it was
            rw [hothers session heq] at hy
            have hm : (v.memberIdToChannel.set memberId session').get? m
                = some session := hm
            rw [JsMap.get?_set] at hm
            split at hm
            · cases hm
              exact absurd rfl heq
            · exact .inl ⟨y, ⟨hm, hy⟩, rfl, rfl⟩
  -- closing unregisters the channel, and leaves the others
  | @close session' x hx _ =>
      cases hm : x.memberId with
      | none =>
          exact .inl (h.of_puts hchannels
            (Server.close_eq_none serverId hx hm).1 hx (.inr ⟨rfl, rfl⟩))
      | some memberId =>
          have hputs := (Server.close_eq_some serverId hx hm).1
          have hself := hputs.self
          have hothers := hputs.others
          obtain ⟨table, heq⟩ := hputs.rest
          rw [heq] at h hself hothers
          obtain ⟨hreg, hy⟩ := h
          have hreg := JsMap.get?_of_get?_delete hreg
          by_cases heq : session = session'
          · subst heq
            rw [hself] at hy
            cases hy
            exact .inl ⟨x, ⟨hreg, hx⟩, rfl, rfl⟩
          · rw [hothers session heq] at hy
            exact .inl ⟨y, ⟨hreg, hy⟩, rfl, rfl⟩
  | updateMemberState newState cId _ _ _ =>
      exact .inl (h.of_keeps (Server.updateMemberState_keeps
        hchannels.registered _ _ newState cId))
  | forward => exact .inl ⟨y, h, rfl, rfl⟩

/-- The session, which was given its member, resumes in `a`; `y` is its
record afterwards. -/
def Joins (s : System) (a : SystemAction) (S : ServerId)
    (session : SessionId) (y : Session) : Prop :=
  a = .resume S session ∧ ∃ x id, s.sessionOf S session = some x ∧
    x.phase = .preparingMember (some (.ok id)) ∧ y.auth = x.auth

/-- **One step keeps the mirror of a registered channel**, and does not
replace the space it mirrors; a channel registered anew mirrors the stored
space. -/
theorem step_registers {s s' : System} {a : SystemAction}
    {obs : List (Out Publisher)} (h : Point anyStep s [])
    (hs : machine.step s a = some (s', obs)) {S : ServerId} {v' : Server}
    {m : MemberId} {session : SessionId} {y : Session}
    (hv' : s'.servers.get? S = some v') (hy : Registers v' m session y) :
    (∃ v x, s.servers.get? S = some v ∧ Registers v m session x ∧
      SameMirror x y ∧ ∀ ref, v.spaces.get? y.auth.spaceUuid = some ref →
        v'.spaces.get? y.auth.spaceUuid = none ∨
          v'.spaces.get? y.auth.spaceUuid = some ref) ∨
      y.mirror = v'.spaces.get? y.auth.spaceUuid ∧ s.Joins a S session y := by
  -- who is registered afterwards was, or has just joined
  obtain ⟨t, ht, heq⟩ := Option.map_eq_some_iff.mp hs
  cases heq
  cases act_acts ht with
  | started hn =>
      replace hv' : (s.servers.set _ Server.initial).get? S = some v' := hv'
      rw [JsMap.get?_set] at hv'
      split at hv'
      · cases hv'
        cases hy.1
      · exact .inl ⟨v', y, hv', hy, ⟨rfl, rfl⟩, fun _ => .inr⟩
  -- a call of a server: the server itself, then what it publishes
  | @called serverId v _ p _ hv hc hpub =>
      have hany : anyStep ([] : List (Out Publisher)) s a := trivial
      have hcalled := (h.called hany hv hc).flushed []
      have hfollows : Follows { s with
          out := [], servers := s.servers.set serverId p.1 } s' :=
        ((Follows.published _).publish (h.linked.flushed []) hv hc
          ⟨hcalled, .refl _⟩ hpub).2
      obtain ⟨v₁, hv₁, hk, hspaces⟩ := hfollows S v' hv'
      obtain ⟨x, hx, hxy⟩ := hy.of_keeps hk
      replace hv₁ : (s.servers.set serverId p.1).get? S = some v₁ := hv₁
      rw [JsMap.get?_set] at hv₁
      rw [hspaces]
      by_cases hS : S = serverId
      · rw [if_pos hS] at hv₁
        cases hv₁
        have hsame := (Server.call_mirrorFrame hc).spaces
        -- the caller is the server of the session
        rcases hc.registers (h.channels hv) (h.linked.fresh _ _ · · hv) hx
          with ⟨z, hz, hzx⟩ | ⟨ref, href, hmirror, ha, z, id, hz, hp, hauth⟩
        · refine .inl ⟨v, z, hS ▸ hv, hz,
            ⟨hxy.1.trans hzx.1, hxy.2.trans hzx.2⟩, fun ref href => ?_⟩
          rw [hsame]
          exact .inr href
        · refine .inr ⟨?_, hS ▸ ha, z, id, ?_, hp, hxy.1.trans hauth⟩
          · rw [hxy.2, hxy.1, hmirror, hsame, href]
          · rw [hS]
            exact (sessionOf_eq (s := s) hv session).trans hz
      · rw [if_neg hS] at hv₁
        exact .inl ⟨v₁, x, hv₁, hx, hxy, fun _ => .inr⟩
  -- a move of the coordinator: its callback runs on one server
  | @coordinator b _ ha hrun =>
      obtain ⟨⟨t', reqs⟩, ht', rfl⟩ := Option.map_eq_some_iff.mp hrun
      obtain ⟨-, -, -, hreqs⟩ := stretch_step ht'
      have hact := (stretch_act ht').1
      have hm := stretch_move (h.linked.flushed []) h.reachable
        (.coordinator ha) ht'
      have hany : anyStep ([] : List (Out Publisher)) s
          (SystemAction.coordinator b) := trivial
      have hpoint := h.coordinated hany (.coordinator ha) hm.of_flushed hact
      have hfollows := ((Follows.published t').publishInner hreqs
        ⟨hpoint, .refl t'⟩).2
      obtain ⟨v₁, hv₁, hk, hspaces⟩ := hfollows S v' hv'
      obtain ⟨x, hx, hxy⟩ := hy.of_keeps hk
      obtain ⟨v, hv, hcall⟩ := hm.callback (.coordinator ha) hv₁
      obtain ⟨z, hz, hzx⟩ :=
        hx.of_keeps (Server.callback_keeps (h.channels hv).registered hcall)
      refine .inl ⟨v, z, hv, hz, ⟨hxy.1.trans hzx.1, hxy.2.trans hzx.2⟩,
        fun ref href => ?_⟩
      rw [hspaces]
      -- the callback may store the space or remove it
      cases hcall with
      | relayed hr => exact hr.spaces_kept href
      | memberPrepared =>
          rw [onMemberPrepared_spaces]
          exact .inr href
      | memberDeleted =>
          rw [onMemberDeleted_spaces]
          exact .inr href

/-- While the channel is registered for `m`, the owning space of `m` is the
object stored for `uuid`. -/
def OwnStored (s : System) (serverId : ServerId) (m : MemberId)
    (session : SessionId) (uuid : Uuid) : Prop :=
  ∀ v, s.servers.get? serverId = some v →
    v.memberIdToChannel.get? m = some session →
    ∃ ref, v.members.get? m = some ref ∧ v.spaces.get? uuid = some ref

/-- If the owning space has been the stored one all along, it is the one
the channel was registered for. -/
theorem current_of_stored {past : List System} {s : System}
    {tr : List (Out Publisher)} (h : machine.Run anyStep past s tr)
    {serverId : ServerId} {m : MemberId} {session : SessionId} :
    ∀ {v x}, s.servers.get? serverId = some v → Registers v m session x →
      (∀ t ∈ past ++ [s], t.OwnStored serverId m session x.auth.spaceUuid) →
      ∃ ref, v.Current m session x ref := by
  induction h with
  | init hs =>
      intro v x hv
      obtain rfl : _ = System.initial := hs
      cases hv
  | @step past s s' tr obs a hrun _ hs ih =>
      intro v' y hv' hy hstill
      obtain ⟨ref, howning, hstored⟩ := hstill s'
        (List.mem_append_right _ List.mem_cons_self) v' hv' hy.1
      refine ⟨ref, hy.1, hy.2, ?_, hstored, howning⟩
      rcases step_registers (Run.point hrun) hs hv' hy with
        ⟨v, x, hv, hx, hxy, hkept⟩ | ⟨hmirror, -⟩
      · obtain ⟨ref', hcur⟩ := ih hv hx fun t ht => by
          rw [← hxy.1]
          exact hstill t (List.mem_append_left _ ht)
        have hold := hcur.stored
        rw [← hxy.1] at hold
        rw [hxy.2, hcur.mirror]
        rcases hkept ref' hold with hnone | hsome
        · rw [hnone] at hstored
          cases hstored
        · rw [← hsome, hstored]
      · rw [hmirror, hstored]

end System

/-- **The view of a client refines the mirror**, as long as the owning space
of its member is the object stored for its uuid. -/
theorem client_view {past : List System} {s : System}
    {tr : List (Out Publisher)} (h : machine.Run anyStep past s tr)
    {serverId : ServerId} {v : Server} {m : MemberId} {session : SessionId}
    {x : Session} (hv : s.servers.get? serverId = some v)
    (hm : v.memberIdToChannel.get? m = some session)
    (hx : v.sessions.get? session = some x)
    (hstill : ∀ t ∈ past ++ [s],
      t.OwnStored serverId m session x.auth.spaceUuid)
    (data : MemberData) (isMuted : Bool) :
    ∃ ref space, v.members.get? m = some ref ∧
      v.spaceHeap.get? ref = some space ∧
      (∀ id, (x.view data isMuted).consumerMembers.get? id
        = if id = m then none
          else (space.members.get? id).map fun member =>
            ⟨member.data, member.state⟩) ∧
      ∀ id, .memberJoin id ∉ (x.view data isMuted).warnings ∧
        .memberLeave id ∉ (x.view data isMuted).warnings ∧
        .memberStateUpdate id ∉ (x.view data isMuted).warnings := by
  obtain ⟨ref, hcur⟩ := System.current_of_stored h hv ⟨hm, hx⟩ hstill
  obtain ⟨space, hspace, hshows⟩ := (System.Run.point h).viewed serverId v hv
    m session x ref hcur data isMuted
  refine ⟨ref, space, hcur.owning, hspace, hshows.members, fun id => ?_⟩
  refine ⟨fun hw => ?_, fun hw => ?_, fun hw => ?_⟩
  · exact absurd (hshows.quiet _ hw) Bool.true_eq_false_eq_False
  · exact absurd (hshows.quiet _ hw) Bool.true_eq_false_eq_False
  · exact absurd (hshows.quiet _ hw) Bool.true_eq_false_eq_False

/-- The owning space was the stored one in each of the states. -/
def ownStored (states : List System) (serverId : ServerId) (m : MemberId)
    (session : SessionId) (uuid : Uuid) : Bool :=
  states.all fun t => decide (∀ v ∈ t.servers.get? serverId,
    v.memberIdToChannel.get? m = some session →
      (v.members.get? m).isSome ∧ v.members.get? m = v.spaces.get? uuid)

theorem ownStored_iff {states : List System} {serverId : ServerId}
    {m : MemberId} {session : SessionId} {uuid : Uuid} :
    ownStored states serverId m session uuid = true ↔
      ∀ t ∈ states, t.OwnStored serverId m session uuid := by
  unfold ownStored
  rw [List.all_eq_true]
  refine forall₂_congr fun t _ => ?_
  rw [decide_eq_true_iff]
  refine forall₂_congr fun v _ => imp_congr_right fun _ => ?_
  rw [Option.isSome_iff_exists]
  constructor
  · rintro ⟨⟨ref, hm⟩, heq⟩
    exact ⟨ref, hm, heq ▸ hm⟩
  · rintro ⟨ref, hm, hs⟩
    exact ⟨⟨ref, hm⟩, hm.trans hs.symm⟩

/-- The first of two members sees the second one. -/
theorem client_view_two : ∃ (past : List System) (s : System)
    (tr : List (Out Publisher)) (v : Server) (x : Session),
    machine.Run anyStep past s tr ∧ s.servers.get? 1 = some v ∧
    v.memberIdToChannel.get? 0 = some 0 ∧ v.sessions.get? 0 = some x ∧
    ∃ ref space, v.members.get? 0 = some ref ∧
      v.spaceHeap.get? ref = some space ∧ 1 ∈ space.members.keys ∧
      (x.view ⟨"Ann"⟩ false).consumerMembers.get? 1
        = (space.members.get? 1).map fun member =>
            ⟨member.data, member.state⟩ := by
  obtain ⟨past, s, tr, hr, hp⟩ := Machine.Run.exists_of_exec
    (M := machine) (G := anyStep) (l := twoMembers)
    (p := fun r => ownStored (r.1 ++ [r.2.1]) 1 0 0 "room" &&
      decide (∃ v ∈ r.2.1.servers.get? 1,
        v.memberIdToChannel.get? 0 = some 0 ∧
        (∃ x ∈ v.sessions.get? 0, x.auth.spaceUuid = "room") ∧
        ∃ ref ∈ v.members.get? 0, ∃ space ∈ v.spaceHeap.get? ref,
          1 ∈ space.members.keys))
    rfl (by decide)
  rw [Bool.and_eq_true, decide_eq_true_iff, ownStored_iff] at hp
  obtain ⟨hstill, v, hv, hm, ⟨x, hx, huuid⟩, ref', href', space', hs', hin⟩ :=
    hp
  rw [← huuid] at hstill
  obtain ⟨ref, space, href, hspace, hget, -⟩ :=
    client_view hr hv hm hx hstill ⟨"Ann"⟩ false
  rw [Option.mem_def.mp href'] at href
  cases href
  rw [Option.mem_def.mp hs'] at hspace
  cases hspace
  exact ⟨past, s, tr, v, x, hr, hv, hm, hx, ref', space', href', hs', hin,
    hget 1⟩

end Twolk.Signaling
