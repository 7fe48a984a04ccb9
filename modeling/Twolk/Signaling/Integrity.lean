/-
  Twolk.Signaling.Integrity
  ─────────────────────────
  **THE TWO STORES OF A SERVER IN STEP.**

  `spaces` holds the mirrored spaces, each with its members, and `members`
  the members themselves.  What is checked when a request is sent need not
  hold when its answer comes: `deleteSpace` asks only when nobody is left in
  the space, and its ack removes the mirror whoever has joined it since.
  Every other answer keeps the stores in step.

  Main result: `mirror_integrity` — while no mirror is removed that has
  members, a member is stored exactly when its owning space is stored and
  has it.
-/
import Twolk.Signaling.Mirrors

namespace Twolk.Signaling

open Twolk.Lib Coordinator

namespace Server

/-! ## §1. Integrity. -/

/-- `ref` is the very object stored under its uuid. -/
def Stored (v : Server) (ref : SpaceRef) : Prop :=
  ∃ uuid, v.uuidOf ref = some uuid ∧ v.spaces.get? uuid = some ref

/-- A member is stored iff its owning space is stored and has it. -/
def Integral (v : Server) : Prop :=
  ∀ m ref, v.members.get? m = some ref ↔ v.Stored ref ∧ m ∈ v.membersOf ref

/-- Whoever is in a stored space is a stored member of that space. -/
def Listed (v : Server) : Prop :=
  ∀ m ref, v.Stored ref → m ∈ v.membersOf ref → v.members.get? m = some ref

variable {v v' : Server} {c : Coord Publisher}

/-- A mirror that a uuid leads to is stored. -/
theorem Mirrored.stored (h : Mirrored v) {uuid : Uuid} {ref : SpaceRef}
    (hs : v.spaces.get? uuid = some ref) : v.Stored ref :=
  ⟨uuid, h.spaces uuid ref hs, hs⟩

theorem MirrorFrame.stored (h : MirrorFrame v v') (ref : SpaceRef) :
    v'.Stored ref ↔ v.Stored ref := by
  unfold Stored
  rw [h.spaces, h.uuidOf]

theorem Integral.listed (h : Integral v) : Listed v :=
  fun m ref href hin => (h m ref).mpr ⟨href, hin⟩

/-- What leaves the mirrors alone keeps them whole. -/
theorem Integral.frame (h : Integral v) (hf : MirrorFrame v v') :
    Integral v' := by
  intro m ref
  rw [hf.members, hf.stored, hf.membersOf]
  exact h m ref

theorem Listed.frame (h : Listed v) (hf : MirrorFrame v v') :
    Listed v' := by
  intro m ref
  rw [hf.members, hf.stored, hf.membersOf]
  exact h m ref

/-- A mirrored space is not the next one. -/
theorem Mirrored.old (hw : Mirrored v) {ref : SpaceRef}
    (href : v.uuidOf ref ≠ none) : ref ≠ v.spaceRefGen := by
  rintro rfl
  exact Nat.lt_irrefl _ (hw.fresh _ href)

/-- Nobody in a snapshot is in another stored space. -/
theorem Listed.snapshot (h : Listed v) (hw : Mirrored v)
    (hM : Mirrors c v) (hI : MemberWF c) {uuid : Uuid}
    {space : Coordinator.Space} (hs : c.spaces.get? uuid = some space)
    (caps : Json) :
    Listed ((SpaceService.clientSideMembers c space).foldl
      (fun v' m => v'.addMember m.id v.spaceRefGen m.data m.state)
      (v.addSpace uuid space.data caps)) := by
  obtain ⟨-, hspaces, huuid, hmem, hmembers⟩ := hw.snapshot uuid
    ⟨uuid, space.data, SpaceService.clientSideMembers c space⟩ caps
  dsimp only at hspaces huuid hmem hmembers
  have hsnap : ∀ m, m ∈ (SpaceService.clientSideMembers c space).map
      ClientSideMember.id → c.spaceOf m = some uuid :=
    fun m hm => ((hI.mem uuid m).mp
      ((mem_clientSideMembers hI hs).mp hm)).2
  rintro m ref ⟨uuid', href, hstored⟩ hin
  rw [hmem] at hin
  rw [hmembers]
  rcases hin with hin | ⟨hin, rfl⟩
  · have hne := hw.old (uuidOf_of_mem hin)
    rw [huuid, if_neg hne] at href
    have hother : uuid' ≠ uuid := by
      rintro rfl
      rw [hspaces, JsMap.get?_set_self] at hstored
      exact hne (Option.some.inj hstored).symm
    rw [hspaces, JsMap.get?_set_of_ne _ _ hother] at hstored
    rw [if_neg fun hin' => ?_]
    · exact h m ref ⟨uuid', href, hstored⟩ hin
    · -- it would be a member of two spaces
      have hknown := hM.known ref m hin
      rw [hsnap m hin', href] at hknown
      exact hother (Option.some.inj hknown).symm
  · exact if_pos hin

/-- A snapshot is mirrored; nobody in it was mirrored in a stored space. -/
theorem Integral.snapshot (h : Integral v) (hw : Mirrored v)
    (hM : Mirrors c v) (hI : MemberWF c) {uuid : Uuid}
    {space : Coordinator.Space} (hs : c.spaces.get? uuid = some space)
    (hnew : v.spaces.get? uuid = none) (caps : Json) :
    Integral ((SpaceService.clientSideMembers c space).foldl
      (fun v' m => v'.addMember m.id v.spaceRefGen m.data m.state)
      (v.addSpace uuid space.data caps)) := by
  intro m ref
  refine ⟨?_, fun hin => h.listed.snapshot hw hM hI hs caps m ref hin.1 hin.2⟩
  obtain ⟨-, hspaces, huuid, hmem, hmembers⟩ := hw.snapshot uuid
    ⟨uuid, space.data, SpaceService.clientSideMembers c space⟩ caps
  dsimp only at hspaces huuid hmem hmembers
  intro hget
  rw [hmembers] at hget
  rw [hmem]
  split at hget
  · rename_i hin
    cases hget
    refine ⟨⟨uuid, ?_, ?_⟩, .inr ⟨hin, rfl⟩⟩
    · rw [huuid, if_pos rfl]
    · rw [hspaces, JsMap.get?_set_self]
  · obtain ⟨⟨uuid', href, hstored⟩, hin⟩ := (h m ref).mp hget
    refine ⟨⟨uuid', ?_, ?_⟩, .inl hin⟩
    · rw [huuid, if_neg (hw.old (by rw [href]; simp))]
      exact href
    · rw [hspaces, JsMap.get?_set_of_ne _ _ fun heq => ?_]
      · exact hstored
      · rw [heq, hnew] at hstored
        cases hstored

/-- Adding a member stores no further mirror. -/
theorem addMember_stored (v : Server) (id : MemberId) (ref : SpaceRef)
    (data : MemberData) (state : MemberState) (ref' : SpaceRef) :
    (v.addMember id ref data state).Stored ref' ↔ v.Stored ref' := by
  unfold Stored
  rw [uuidOf_addMember]
  rfl

theorem Stored.uuidOf_ne {ref : SpaceRef} (h : v.Stored ref) :
    v.uuidOf ref ≠ none := by
  obtain ⟨uuid, hu, -⟩ := h
  rw [hu]
  simp

/-- The new member is listed in a stored mirror. -/
theorem Listed.addMember (h : Listed v) {id : MemberId}
    (hn : v.members.get? id = none) {ref : SpaceRef} (data : MemberData)
    (state : MemberState) (href : v.Stored ref) :
    Listed (v.addMember id ref data state) := by
  intro m ref'
  rw [addMember_stored, membersOf_addMember v id data state href.uuidOf_ne]
  intro href' hin
  show (v.members.set id ref).get? m = some ref'
  rw [JsMap.get?_set]
  rcases hin with hin | ⟨hm, rfl⟩
  · have hget := h m ref' href' hin
    rw [if_neg fun hm => ?_]
    · exact hget
    · rw [hm, hn] at hget
      cases hget
  · exact if_pos hm

/-- So the mirrors stay whole. -/
theorem Integral.addMember (h : Integral v) {id : MemberId}
    (hn : v.members.get? id = none) {ref : SpaceRef} (data : MemberData)
    (state : MemberState) (href : v.Stored ref) :
    Integral (v.addMember id ref data state) := by
  intro m ref'
  refine ⟨?_, fun hin =>
    h.listed.addMember hn data state href m ref' hin.1 hin.2⟩
  rw [addMember_stored, membersOf_addMember v id data state href.uuidOf_ne]
  show (v.members.set id ref).get? m = some ref' → _
  rw [JsMap.get?_set]
  intro hget
  split at hget
  · rename_i hm
    cases hget
    exact ⟨href, .inr ⟨hm, rfl⟩⟩
  · obtain ⟨hstored, hin⟩ := (h m ref').mp hget
    exact ⟨hstored, .inl hin⟩

/-- Removing a member drops no mirror. -/
theorem removeMember_stored {id : MemberId} {ref : SpaceRef}
    (href : v.members.get? id = some ref) (ref' : SpaceRef) :
    (v.removeMember id).Stored ref' ↔ v.Stored ref' := by
  unfold Stored
  rw [uuidOf_removeMember]
  unfold Server.removeMember
  rw [href]

theorem Listed.removeMember (h : Listed v) {id : MemberId}
    {ref : SpaceRef} (href : v.members.get? id = some ref) :
    Listed (v.removeMember id) := by
  intro m ref'
  rw [removeMember_stored href, membersOf_removeMember href,
    members_removeMember href, JsMap.get?_delete]
  rintro href' ⟨hin, hne⟩
  have hget := h m ref' href' hin
  rw [if_neg fun hm => ?_]
  · exact hget
  · rw [hm, href] at hget
    exact hne ⟨hm, (Option.some.inj hget).symm⟩

/-- Removing a member keeps the mirrors whole. -/
theorem Integral.removeMember (h : Integral v) {id : MemberId}
    {ref : SpaceRef} (href : v.members.get? id = some ref) :
    Integral (v.removeMember id) := by
  intro m ref'
  refine ⟨?_, fun hin => h.listed.removeMember href m ref' hin.1 hin.2⟩
  rw [removeMember_stored href, membersOf_removeMember href,
    members_removeMember href, JsMap.get?_delete]
  intro hget
  split at hget
  · cases hget
  · rename_i hm
    obtain ⟨hstored, hin⟩ := (h m ref').mp hget
    exact ⟨hstored, hin, fun heq => hm heq.1⟩

/-- Removing a space drops its mirror only. -/
theorem removeSpace_stored (hw : Mirrored v) (uuid : Uuid)
    (ref : SpaceRef) : (v.removeSpace uuid).Stored ref ↔
      v.Stored ref ∧ v.spaces.get? uuid ≠ some ref := by
  unfold Stored
  constructor
  · rintro ⟨uuid', href, hget⟩
    have hget : (v.spaces.delete uuid).get? uuid' = some ref := hget
    rw [JsMap.get?_delete] at hget
    split at hget
    · cases hget
    · rename_i hne
      refine ⟨⟨uuid', href, hget⟩, fun hother => hne ?_⟩
      have huuid := hw.spaces uuid ref hother
      exact Option.some.inj (href.symm.trans huuid)
  · rintro ⟨⟨uuid', href, hget⟩, hother⟩
    refine ⟨uuid', href, ?_⟩
    show (v.spaces.delete uuid).get? uuid' = some ref
    rw [JsMap.get?_delete, if_neg]
    · exact hget
    · rintro rfl
      exact hother hget

/-- Who was in the space stays a stored member. -/
theorem Listed.removeSpace (h : Listed v) (hw : Mirrored v) (uuid : Uuid) :
    Listed (v.removeSpace uuid) := by
  intro m ref href hin
  exact h m ref ((removeSpace_stored hw uuid ref).mp href).1 hin

/-- Removing a space in which nobody is left keeps the mirrors whole. -/
theorem Integral.removeSpace (h : Integral v) (hw : Mirrored v) {uuid : Uuid}
    (hempty : ∀ ref, v.spaces.get? uuid = some ref → v.membersOf ref = []) :
    Integral (v.removeSpace uuid) := by
  intro m ref
  refine ⟨fun hget => ?_, fun hin =>
    h.listed.removeSpace hw uuid m ref hin.1 hin.2⟩
  obtain ⟨href, hin⟩ := (h m ref).mp hget
  refine ⟨(removeSpace_stored hw uuid ref).mpr ⟨href, fun hother => ?_⟩, hin⟩
  rw [hempty ref hother] at hin
  exact List.not_mem_nil hin

theorem Listed.memberPrepared (h : Listed v) (hw : Mirrored v)
    (session : SessionId) (uuid : Uuid) (data : MemberData)
    (state : MemberState) (id : MemberId) :
    Listed (v.onMemberPrepared session uuid data state id) := by
  cases hget : v.members.get? id with
  | some ref =>
      have hhas : v.members.has id = true := JsMap.has_iff.mpr ⟨ref, hget⟩
      unfold onMemberPrepared
      rw [if_pos hhas]
      exact h.frame (.of_eq rfl rfl rfl rfl)
  | none =>
      rw [onMemberPrepared_eq hget]
      split
      · exact h.frame (.of_eq rfl rfl rfl rfl)
      · rename_i ref href
        have hadded := h.addMember hget data state (hw.stored href)
        have hbroadcast := hadded.frame (broadcast_mirrorFrame _
          (((v.addMember id ref data state).membersOf ref).filter (· ≠ id))
          (.memberJoin ⟨id, data, state⟩))
        exact hbroadcast.frame (.of_eq rfl rfl rfl rfl)

/-- A member is added to a mirror that is still there. -/
theorem Integral.memberPrepared (h : Integral v) (hw : Mirrored v)
    (session : SessionId) (uuid : Uuid) (data : MemberData)
    (state : MemberState) (id : MemberId) :
    Integral (v.onMemberPrepared session uuid data state id) := by
  cases hget : v.members.get? id with
  | some ref =>
      have hhas : v.members.has id = true := JsMap.has_iff.mpr ⟨ref, hget⟩
      unfold onMemberPrepared
      rw [if_pos hhas]
      exact h.frame (.of_eq rfl rfl rfl rfl)
  | none =>
      rw [onMemberPrepared_eq hget]
      split
      · exact h.frame (.of_eq rfl rfl rfl rfl)
      · rename_i ref href
        have hadded := h.addMember hget data state (hw.stored href)
        have hbroadcast := hadded.frame (broadcast_mirrorFrame _
          (((v.addMember id ref data state).membersOf ref).filter (· ≠ id))
          (.memberJoin ⟨id, data, state⟩))
        exact hbroadcast.frame (.of_eq rfl rfl rfl rfl)

/-- A deleted member leaves its mirror as well. -/
theorem Integral.memberDeleted (h : Integral v) (serverId : ServerId)
    (memberId : MemberId) :
    Integral (v.onMemberDeleted serverId memberId).1 := by
  cases href : v.members.get? memberId with
  | none =>
      unfold onMemberDeleted
      rw [href]
      exact h
  | some ref =>
      rw [onMemberDeleted_eq serverId href]
      exact (h.removeMember href).frame (broadcast_mirrorFrame _ _ _)

theorem Listed.memberDeleted (h : Listed v) (serverId : ServerId)
    (memberId : MemberId) :
    Listed (v.onMemberDeleted serverId memberId).1 := by
  cases href : v.members.get? memberId with
  | none =>
      unfold onMemberDeleted
      rw [href]
      exact h
  | some ref =>
      rw [onMemberDeleted_eq serverId href]
      exact (h.removeMember href).frame (broadcast_mirrorFrame _ _ _)

/-- **Every callback keeps the members of stored spaces listed.** -/
theorem Listed.callback (h : Listed v) (hw : Mirrored v) (hM : Mirrors c v)
    (hI : MemberWF c) {serverId : ServerId}
    (hc : System.Callback c serverId v v') : Listed v' := by
  cases hc with
  | relayed hr =>
      cases hr with
      | heard heard => exact h.frame (hears_mirrorFrame heard v)
      | @acked _ _ _ e session he heard =>
          have hemit : MirrorFrame v (v.emit session e) :=
            .of_eq rfl rfl rfl rfl
          exact h.frame (hemit.trans (hears_mirrorFrame heard _))
      | rejected => exact h.frame (.of_eq rfl rfl rfl rfl)
      | spacePrepared caps hx hp hs =>
          rw [onSpacePrepared_eq]
          refine Listed.frame ?_ (.of_eq rfl rfl rfl rfl)
          split
          · exact h
          · exact h.snapshot hw hM hI hs _
      | spaceDeleted uuid => exact h.removeSpace hw uuid
  | memberPrepared => exact h.memberPrepared hw _ _ _ _ _
  | memberDeleted => exact h.memberDeleted _ _

end Server

/-! ## §2. Runs in which only deserted mirrors are removed. -/

/-- The server and the space whose unsubscribe the task acks. -/
def unsubscribes : Coordinator.Task Publisher → Option (ServerId × Uuid)
  | .transitioned (.unsubscribe (.deleteSpace serverId uuid)) (.ok _) =>
      some (serverId, uuid)
  | _ => none

namespace System

/-- The members of the mirror stored under `uuid`. -/
def mirroredMembers (s : System) (serverId : ServerId) (uuid : Uuid) :
    List MemberId :=
  ((s.servers.get? serverId).bind fun v =>
    (v.spaces.get? uuid).map v.membersOf).getD []

/-- Nobody is in the mirror whose unsubscribe is acked. -/
def removesDeserted : Guard System SystemAction (Out Publisher) :=
  fun _ s a => match a with
  | .coordinator (.resume i) =>
      match (s.coordinator.tasks[i]?).bind unsubscribes with
      | some (serverId, uuid) => s.mirroredMembers serverId uuid = []
      | none => True
  | _ => True

instance (tr : List (Out Publisher)) (s : System) (a : SystemAction) :
    Decidable (removesDeserted tr s a) := by
  unfold removesDeserted
  split
  · split <;> infer_instance
  · infer_instance

/-! ## §3. Integrity over a run. -/

section Run

variable {s s' : System} {b : Request} {reqs : List Request}

/-- The mirrors are whole after every server has heard the updates. -/
theorem integral_announce {servers : JsMap ServerId Server}
    {heard : List (Out Publisher)}
    (h : ∀ S v, servers.get? S = some v → v.Integral) :
    ∀ S v, (announce servers heard).get? S = some v → v.Integral := by
  intro S v' hv'
  rw [announce, JsMap.get?_mapVal] at hv'
  obtain ⟨v, hget, rfl⟩ := Option.map_eq_some_iff.mp hv'
  exact (h S v hget).frame (Server.hears_mirrorFrame heard v)

/-- **A move keeps the stores of every server in step**, unless it removes a
mirror with members. -/
theorem Move.integral {G : Guard System SystemAction (Out Publisher)}
    {later : List Request} (hpoint : Point G s later)
    (hm : Move s b s' reqs)
    (hdeserted : ∀ i, b = .resume i →
      ∀ p, (s.coordinator.tasks[i]?).bind unsubscribes = some p →
        s.mirroredMembers p.1 p.2 = [])
    (h : ∀ S v, s.servers.get? S = some v → v.Integral) :
    ∀ S v, s'.servers.get? S = some v → v.Integral := by
  -- the mirrors change with a snapshot, a member, or an unsubscribe
  have hI := (coordWF_reachable hpoint.reachable).member
  cases hm with
  | quiet _ _ hv | asked _ _ _ _ hv | forwarded _ _ hv | unsubscribing _ hv
  | abandoned _ hv | updateNacked _ _ hv =>
      rw [hv]
      exact h
  | announced _ _ _ hv =>
      rw [hv]
      exact integral_announce h
  | rejected _ _ hv =>
      rw [hv]
      refine JsMap.forall_modify h fun v hget => ?_
      exact (h _ v hget).frame (.of_eq rfl rfl rfl rfl)
  | removed _ _ _ hv =>
      rw [hv]
      exact JsMap.forall_modify h fun v hget => (h _ v hget).memberDeleted _ _
  -- the snapshot holds the members of the coordinator
  | @subscribed _ _ serverId session x space _ _ hx hp hs _ hv =>
      rw [hv]
      refine JsMap.forall_modify h fun v hget => ?_
      rw [Server.onSpacePrepared_eq]
      refine Server.Integral.frame ?_ (.of_eq rfl rfl rfl rfl)
      split
      · exact h serverId v hget
      · rename_i hnot
        have hnew := JsMap.has_eq_false_iff.mp ((Bool.not_eq_true _).mp hnot)
        exact (h serverId v hget).snapshot (hpoint.mirrored serverId v hget)
          (hpoint.mirrors serverId v hget) hI hs hnew _
  -- the guard says that nobody is mirrored in the space that goes
  | @unsubscribed i _ serverId uuid _ hi _ hv =>
      have hempty := hdeserted i rfl (serverId, uuid) (by rw [hi]; rfl)
      rw [hv]
      refine JsMap.forall_modify h fun v hget => ?_
      refine (h serverId v hget).removeSpace (hpoint.mirrored serverId v hget)
        fun ref href => ?_
      unfold mirroredMembers at hempty
      rw [hget, Option.bind_some, href] at hempty
      exact hempty
  -- a member that is added is added to a mirror that is there
  | @added _ _ serverId _ _ _ _ _ _ _ hv =>
      rw [hv]
      refine JsMap.forall_modify h fun v hget => ?_
      exact (h serverId v hget).memberPrepared
        (hpoint.mirrored serverId v hget) _ _ _ _ _
  | @updated _ _ _ _ serverId session event cId resp heard _ _ _ _ hv =>
      rw [hv]
      refine integral_announce ?_
      split
      · exact h
      · refine JsMap.forall_modify h fun v hget => ?_
        exact (h _ v hget).frame (.of_eq rfl rfl rfl rfl)

end Run

/-- **Members of stored spaces are listed at every point of a run**, whatever
mirrors are removed. -/
theorem Point.listed {G : Guard System SystemAction (Out Publisher)}
    {s : System} {reqs : List Request} (h : Point G s reqs) :
    ∀ S v, s.servers.get? S = some v → v.Listed := by
  refine h.server Server.Listed
    (fun m ref _ hin => absurd hin List.not_mem_nil) ?_ ?_
  · intro tr s S v a p _ _ _ hI hc
    exact hI.frame (Server.call_mirrorFrame hc)
  · intro s reqs S v v' hpoint hv hI hc
    exact hI.callback (hpoint.mirrored S v hv) (hpoint.mirrors S v hv)
      (coordWF_reachable hpoint.reachable).member hc

/-- **The stores are in step at every point of such a run.** -/
theorem Point.integral {s : System} {reqs : List Request}
    (h : Point removesDeserted s reqs) :
    ∀ S v, s.servers.get? S = some v → v.Integral := by
  induction h with
  | initial => exact fun _ _ hv => nomatch hv
  | flushed _ _ ih => exact ih
  | started _ _ ih =>
      refine JsMap.forall_set ih fun m ref => ?_
      exact iff_of_false (fun hget => nomatch hget)
        fun hin => absurd hin.2 List.not_mem_nil
  | called _ _ hv hc ih =>
      exact JsMap.forall_set ih
        ((ih _ _ hv).frame (Server.call_mirrorFrame hc))
  | published h hready hm _ ih =>
      refine hm.integral h (fun i hb => ?_) ih
      subst hb
      cases hready
  | coordinated h hg _ hm _ ih =>
      refine hm.integral h (fun i hb p hp => ?_) ih
      subst hb
      unfold removesDeserted at hg
      dsimp only at hg
      rw [hp] at hg
      exact hg

end System

/-- **The mirror is in step**: in every run in which no answer removes a
mirrored space that has members, on every server. -/
theorem mirror_integrity {past : List System} {s : System}
    {tr : List (Out Publisher)}
    (h : machine.Run System.removesDeserted past s tr) :
    ∀ serverId v, s.servers.get? serverId = some v → v.Integral :=
  (System.Run.point h).integral

section Desertion

/-- Ben's authentication. -/
def benAuth : Auth := ⟨"room", ⟨"Ben"⟩, ⟨false, false⟩⟩

/-- Ann leaves while Ben is joining. -/
def annLeaves : List SystemAction :=
  twoMembers.take 12 ++
    [.connect 1 benAuth, .resume 1 1, .close 1 0, .coordinator (.resume 0),
     .coordinator (.resume 0), .coordinator (.resume 0)]

/-- Ben is stored, and his space is not. -/
theorem mirror_removed : ∃ past s tr, machine.Run anyStep past s tr ∧
    ∃ v, s.servers.get? 1 = some v ∧ ¬ v.Integral := by
  obtain ⟨past, s, tr, hr, hp⟩ := Machine.Run.exists_of_exec (M := machine)
    (G := anyStep) (l := annLeaves) (p := fun r => decide
      (((r.2.1.servers.get? 1).map fun v =>
        (v.members.get? 1, v.spaces.entries)) = some (some 0, []))) rfl
    (by decide)
  obtain ⟨v, hv, heq⟩ := Option.map_eq_some_iff.mp (of_decide_eq_true hp)
  obtain ⟨hmember, hspaces⟩ := Prod.mk.inj heq
  refine ⟨past, s, tr, hr, v, hv, fun h => ?_⟩
  obtain ⟨⟨uuid, -, hstored⟩, -⟩ := (h 1 0).mp hmember
  have hin := JsMap.mem_entries.mpr hstored
  rw [hspaces] at hin
  exact List.not_mem_nil hin

/-- Ann leaves, and the mirror that is left empty is removed; then Ben joins
another space. -/
def annThenBenElsewhere : List SystemAction :=
  twoMembers.take 12 ++
    [.close 1 0, .coordinator (.resume 0), .coordinator (.resume 0),
     .coordinator (.createSpaceRequest "hall" ⟨"Hall", ""⟩
       "subscription-driven" .external),
     .connect 1 ⟨"hall", ⟨"Ben"⟩, ⟨false, false⟩⟩,
     .coordinator (.routerAck 1 "caps"), .coordinator (.resume 0),
     .coordinator (.resume 0), .resume 1 1, .coordinator (.resume 0),
     .resume 1 1]

/-- A server that has deleted one of its two mirrors. -/
theorem mirror_integrity_two : ∃ past s tr,
    machine.Run System.removesDeserted past s tr ∧
    .ack (.deleteSpace 1 "room") .void ∈ tr ∧
    ∃ v, s.servers.get? 1 = some v ∧ v.members.keys = [1] ∧
      v.spaces.keys = ["hall"] ∧ v.Integral := by
  obtain ⟨past, s, tr, hr, hp⟩ := Machine.Run.exists_of_exec (M := machine)
    (G := System.removesDeserted) (l := annThenBenElsewhere)
    (p := fun r => decide (.ack (.deleteSpace 1 "room") .void ∈ r.2.2 ∧
      ((r.2.1.servers.get? 1).map fun v => (v.members.keys, v.spaces.keys))
        = some ([1], ["hall"]))) rfl (by decide +kernel)
  obtain ⟨hack, hmap⟩ := of_decide_eq_true hp
  obtain ⟨v, hv, heq⟩ := Option.map_eq_some_iff.mp hmap
  obtain ⟨hmembers, hspaces⟩ := Prod.mk.inj heq
  exact ⟨past, s, tr, hr, hack, v, hv, hmembers, hspaces,
    mirror_integrity hr 1 v hv⟩

end Desertion

end Twolk.Signaling
