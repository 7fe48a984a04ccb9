/-
  Twolk.Signaling.Mirrors
  ───────────────────────
  **WHAT A SERVER MIRRORS.**

  A mirrored space outlives its entry in `spaces`, and a space may be
  mirrored more than once, one object after the other.  A member that a
  session of the server holds is in the members of the coordinator as long
  as the server mirrors it, so a later snapshot of its space has it, and its
  owning space is the stored one whenever one is stored.

  Main results:
    * `Point.mirrored` — references are sound at every point of a run,
    * `Point.mirrors` — members of a mirrored space are members of that
      space, and those a session holds are in the stored one.
-/
import Twolk.Signaling.Owners

namespace Twolk.Signaling

open Twolk.Lib Coordinator

namespace Server

/-! ## §1. What a function leaves of the mirror. -/

/-- The uuid of a mirrored space. -/
def uuidOf (v : Server) (ref : SpaceRef) : Option Uuid :=
  (v.spaceHeap.get? ref).map Space.uuid

/-- The members of a mirror, by its reference. -/
theorem mem_membersOf {v : Server} {ref : SpaceRef} {m : MemberId} :
    m ∈ v.membersOf ref ↔
      ∃ space, v.spaceHeap.get? ref = some space ∧ m ∈ space.members.keys := by
  unfold membersOf
  cases v.spaceHeap.get? ref with
  | none => simp
  | some space => simp

/-- `v'` mirrors what `v` mirrors; the states of members may differ. -/
structure MirrorFrame (v v' : Server) : Prop where
  spaces : v'.spaces = v.spaces
  members : v'.members = v.members
  spaceRefGen : v'.spaceRefGen = v.spaceRefGen
  uuidOf : ∀ ref, v'.uuidOf ref = v.uuidOf ref
  membersOf : ∀ ref m, m ∈ v'.membersOf ref ↔ m ∈ v.membersOf ref

variable {v v' v'' : Server}

/-- Nothing the mirrors are made of has changed. -/
theorem MirrorFrame.of_eq (spaceHeap : v'.spaceHeap = v.spaceHeap)
    (spaces : v'.spaces = v.spaces) (members : v'.members = v.members)
    (spaceRefGen : v'.spaceRefGen = v.spaceRefGen) : MirrorFrame v v' where
  spaces := spaces
  members := members
  spaceRefGen := spaceRefGen
  uuidOf ref := by
    unfold Server.uuidOf
    rw [spaceHeap]
  membersOf ref m := by
    unfold Server.membersOf
    rw [spaceHeap]

theorem MirrorFrame.refl (v : Server) : MirrorFrame v v :=
  .of_eq rfl rfl rfl rfl

theorem MirrorFrame.trans (h : MirrorFrame v v')
    (h' : MirrorFrame v' v'') : MirrorFrame v v'' where
  spaces := h'.spaces.trans h.spaces
  members := h'.members.trans h.members
  spaceRefGen := h'.spaceRefGen.trans h.spaceRefGen
  uuidOf ref := (h'.uuidOf ref).trans (h.uuidOf ref)
  membersOf ref m := (h'.membersOf ref m).trans (h.membersOf ref m)

/-- Writing a session, or all of them, leaves the mirrors alone. -/
theorem Puts.mirrorFrame {session : SessionId} {x : Session}
    (h : Puts v session x v') : MirrorFrame v v' := by
  obtain ⟨sessions, rfl⟩ := h.rest
  exact .of_eq rfl rfl rfl rfl

theorem Puts.heap {session : SessionId} {x : Session}
    (h : Puts v session x v') : v'.spaceHeap = v.spaceHeap := by
  obtain ⟨sessions, rfl⟩ := h.rest
  rfl

theorem broadcast_heap (v : Server) (ids : List MemberId)
    (event : ServerToClientEvent) :
    (v.broadcast ids event).spaceHeap = v.spaceHeap := by
  obtain ⟨sessions, heq, -⟩ := v.broadcast_eq event ids
  rw [heq]

/-- A broadcast leaves the mirrors alone. -/
theorem broadcast_mirrorFrame (v : Server) (ids : List MemberId)
    (event : ServerToClientEvent) :
    MirrorFrame v (v.broadcast ids event) := by
  obtain ⟨sessions, heq, -⟩ := v.broadcast_eq event ids
  rw [heq]
  exact .of_eq rfl rfl rfl rfl

theorem emitTo_mirrorFrame (v : Server) (event : ServerToClientEvent)
    (id : MemberId) : MirrorFrame v (v.emitTo event id) :=
  broadcast_mirrorFrame v [id] event

theorem updateMember_mirrorFrame {memberId : MemberId}
    {update : MemberStateUpdate}
    (h : v.updateMember memberId update = some v') : MirrorFrame v v' := by
  obtain ⟨ref, space, member, -, -, -, rfl⟩ := updateMember_eq h
  refine MirrorFrame.trans ?_ (broadcast_mirrorFrame _ _ _)
  -- the state of one member is written
  refine ⟨rfl, rfl, rfl, fun ref' => ?_, fun ref' m => ?_⟩
  · unfold Server.uuidOf
    dsimp only
    rw [JsMap.get?_modify]
    by_cases heq : ref' = ref
    · rw [if_pos heq, heq, Option.map_map]
      rfl
    · rw [if_neg heq]
  · unfold Server.membersOf
    dsimp only
    rw [JsMap.get?_modify]
    by_cases heq : ref' = ref
    · rw [if_pos heq, heq, Option.map_map]
      cases v.spaceHeap.get? ref with
      | none => exact .rfl
      | some space => exact JsMap.mem_keys_modify
    · rw [if_neg heq]

/-- What is relayed adds no member and no mirror. -/
theorem onSpaceUpdate_mirrorFrame (v : Server) (uuid : Uuid)
    (update : SpaceUpdateC) : MirrorFrame v (v.onSpaceUpdate uuid update) := by
  unfold onSpaceUpdate
  split
  · split
    · exact emitTo_mirrorFrame v _ _
    · exact .refl v
  · split
    · cases hu : v.updateMember _ _ with
      | none => exact .refl v
      | some v' => exact updateMember_mirrorFrame hu
    · exact .refl v

/-- What a server hears adds no member and no mirror. By induction on the
updates. -/
theorem hears_mirrorFrame (heard : List (Out Publisher)) : ∀ v,
    MirrorFrame v (heard.foldl System.hears v) := by
  induction heard with
  | nil => exact fun v => .refl v
  | cons o heard ih =>
    intro v
    refine MirrorFrame.trans ?_ (ih (System.hears v o))
    cases o with
    | spaceUpdate uuid update => exact onSpaceUpdate_mirrorFrame v uuid update
    | _ => exact .refl v

/-- A server function changes no mirror. -/
theorem call_mirrorFrame {serverId : ServerId} {a : SystemAction}
    {p : Server × Option Request} (hc : System.ServerCall serverId v a p) :
    MirrorFrame v p.1 := by
  cases hc with
  | connect auth =>
      obtain ⟨result, sessions, heq, -⟩ := v.start_eq serverId auth
      rw [heq]
      exact .of_eq rfl rfl rfl rfl
  | resume hx hres =>
      cases resumes_of_resume hx hres with
      | rejected _ hputs => exact hputs.mirrorFrame
      | spacePrepared _ _ hputs => exact hputs.mirrorFrame
      | spaceGone _ _ hputs => exact hputs.mirrorFrame
      | unmirrored _ _ hputs => exact hputs.mirrorFrame
      | joined _ _ hputs =>
          have hf := hputs.mirrorFrame
          exact { hf with }
  | @close session x hx _ =>
      cases hm : x.memberId with
      | none => exact (close_eq_none serverId hx hm).1.mirrorFrame
      | some memberId =>
          have hf := (close_eq_some serverId hx hm).1.mirrorFrame
          exact { hf with }
  | @updateMemberState session x memberId newState cId _ _ _ =>
      unfold updateMemberState
      have hf : MirrorFrame v ((v.updateMember memberId newState).getD v) := by
        cases hu : v.updateMember memberId newState with
        | none => exact .refl v
        | some v' => exact updateMember_mirrorFrame hu
      exact hf.trans (.of_eq rfl rfl rfl rfl)
  | forward => exact .refl v

/-- Only the update of a client writes to a mirrored space. -/
theorem call_heap {serverId : ServerId} {a : SystemAction}
    {p : Server × Option Request} (hc : System.ServerCall serverId v a p)
    (ha : ∀ session newState cId,
      a ≠ .updateMemberState serverId session newState cId) :
    p.1.spaceHeap = v.spaceHeap := by
  cases hc with
  | connect auth =>
      obtain ⟨result, sessions, heq, -⟩ := v.start_eq serverId auth
      rw [heq]
  | resume hx hres =>
      cases resumes_of_resume hx hres with
      | rejected _ hputs => exact hputs.heap
      | spacePrepared _ _ hputs => exact hputs.heap
      | spaceGone _ _ hputs => exact hputs.heap
      | unmirrored _ _ hputs => exact hputs.heap
      | joined _ _ hputs => exact hputs.heap
  | @close session x hx _ =>
      cases hm : x.memberId with
      | none => exact (close_eq_none serverId hx hm).1.heap
      | some memberId => exact (close_eq_some serverId hx hm).1.heap
  | updateMemberState newState cId _ _ _ => exact absurd rfl (ha _ _ _)
  | forward => rfl

/-! ## §2. Members come and go. -/

theorem uuidOf_addMember (v : Server) (id : MemberId) (ref : SpaceRef)
    (data : MemberData) (state : MemberState) (ref' : SpaceRef) :
    (v.addMember id ref data state).uuidOf ref' = v.uuidOf ref' := by
  unfold uuidOf addMember
  dsimp only
  rw [JsMap.get?_modify]
  by_cases heq : ref' = ref
  · rw [if_pos heq, heq, Option.map_map]
    rfl
  · rw [if_neg heq]

/-- The new member is in its mirror. -/
theorem membersOf_addMember (v : Server) (id : MemberId) {ref : SpaceRef}
    (data : MemberData) (state : MemberState) (href : v.uuidOf ref ≠ none)
    (ref' : SpaceRef) (m : MemberId) :
    m ∈ (v.addMember id ref data state).membersOf ref' ↔
      m ∈ v.membersOf ref' ∨ m = id ∧ ref' = ref := by
  unfold membersOf addMember
  dsimp only
  rw [JsMap.get?_modify]
  by_cases heq : ref' = ref
  · rw [if_pos heq, heq]
    cases hget : v.spaceHeap.get? ref with
    | none =>
        refine absurd ?_ href
        unfold uuidOf
        rw [hget]
        rfl
    | some space =>
        simp only [Option.map_some, Option.getD_some, JsMap.mem_keys_set,
          and_true]
        rw [or_comm]
  · rw [if_neg heq]
    simp [heq]

theorem uuidOf_removeMember (v : Server) (id : MemberId) (ref : SpaceRef) :
    (v.removeMember id).uuidOf ref = v.uuidOf ref := by
  unfold uuidOf removeMember
  split
  · rfl
  · rename_i ref' _
    dsimp only
    rw [JsMap.get?_modify]
    by_cases heq : ref = ref'
    · rw [if_pos heq, heq, Option.map_map]
      rfl
    · rw [if_neg heq]

/-- The removed member is in none. -/
theorem membersOf_removeMember {id : MemberId} {ref : SpaceRef}
    (href : v.members.get? id = some ref) (ref' : SpaceRef) (m : MemberId) :
    m ∈ (v.removeMember id).membersOf ref' ↔
      m ∈ v.membersOf ref' ∧ ¬ (m = id ∧ ref' = ref) := by
  unfold membersOf removeMember
  rw [href]
  dsimp only
  rw [JsMap.get?_modify]
  by_cases heq : ref' = ref
  · rw [if_pos heq, heq]
    cases v.spaceHeap.get? ref with
    | none => simp
    | some space =>
        simp only [Option.map_some, Option.getD_some, JsMap.mem_keys_delete,
          and_true]
        rw [and_comm]
  · rw [if_neg heq]
    simp [heq]

theorem members_removeMember {id : MemberId} {ref : SpaceRef}
    (href : v.members.get? id = some ref) :
    (v.removeMember id).members = v.members.delete id := by
  unfold removeMember
  rw [href]

/-- The members a snapshot mirrors, by induction on them. -/
theorem addMembers_spec (ref : SpaceRef) : ∀ (l : List ClientSideMember)
    (v : Server), v.uuidOf ref ≠ none →
    let v' := l.foldl (fun v' m => v'.addMember m.id ref m.data m.state) v
    v'.spaces = v.spaces ∧ v'.spaceRefGen = v.spaceRefGen ∧
      (∀ ref', v'.uuidOf ref' = v.uuidOf ref') ∧
      (∀ ref' m, m ∈ v'.membersOf ref' ↔ m ∈ v.membersOf ref' ∨
        m ∈ l.map ClientSideMember.id ∧ ref' = ref) ∧
      ∀ m, v'.members.get? m = if m ∈ l.map ClientSideMember.id then some ref
        else v.members.get? m
  | [], v, _ => by
      refine ⟨rfl, rfl, fun _ => rfl, fun _ _ => ?_, fun _ => ?_⟩
      · simp
      · simp
  | a :: l, v, href => by
      have huuid := v.uuidOf_addMember a.id ref a.data a.state
      have hmem := v.membersOf_addMember a.id a.data a.state href
      obtain ⟨h₁, h₂, h₃, h₄, h₅⟩ := addMembers_spec ref l
        (v.addMember a.id ref a.data a.state) (by rwa [huuid])
      refine ⟨h₁, h₂, fun ref' => (h₃ ref').trans (huuid ref'),
        fun ref' m => ?_, fun m => ?_⟩
      · rw [List.foldl_cons, h₄, hmem, List.map_cons, List.mem_cons, or_assoc,
          or_and_right]
      · rw [List.foldl_cons, h₅, List.map_cons]
        show (if m ∈ _ then _ else (v.members.set a.id ref).get? m) = _
        rw [JsMap.get?_set]
        by_cases hl : m ∈ l.map ClientSideMember.id
        · rw [if_pos hl, if_pos (List.mem_cons_of_mem _ hl)]
        · rw [if_neg hl]
          by_cases hm : m = a.id
          · rw [if_pos hm, if_pos (hm ▸ List.mem_cons_self)]
          · rw [if_neg hm, if_neg (by simp [hm, hl])]

/-- The other mirrored spaces stay as they are. -/
theorem addMembers_heap {ref ref' : SpaceRef} (hne : ref' ≠ ref)
    (l : List ClientSideMember) (v : Server) :
    (l.foldl (fun v' m => v'.addMember m.id ref m.data m.state)
      v).spaceHeap.get? ref' = v.spaceHeap.get? ref' := by
  induction l generalizing v with
  | nil => rfl
  | cons a l ih =>
      rw [List.foldl_cons, ih]
      exact JsMap.get?_modify_of_ne _ _ hne

/-- The callback of `prepareSpace`, before it settles the promise. -/
theorem onSpacePrepared_eq (v : Server) (session : SessionId) (uuid : Uuid)
    (clientSideSpace : ClientSideSpace) (caps : Json) :
    v.onSpacePrepared session uuid clientSideSpace caps
      = (if v.spaces.has uuid then v else clientSideSpace.members.foldl
          (fun v' m => v'.addMember m.id v.spaceRefGen m.data m.state)
          (v.addSpace uuid clientSideSpace.data caps)).setPhase session
        (.preparingSpace (some (.ok ()))) :=
  rfl

/-- The callback of `prepareMember`, for a member not mirrored yet. -/
theorem onMemberPrepared_eq {v : Server} {id : MemberId}
    (hn : v.members.get? id = none) (session : SessionId) (uuid : Uuid)
    (data : MemberData) (state : MemberState) :
    v.onMemberPrepared session uuid data state id
      = (match v.spaces.get? uuid with
        | none => v
        | some ref => (v.addMember id ref data state).broadcast
            (((v.addMember id ref data state).membersOf ref).filter (· ≠ id))
            (.memberJoin ⟨id, data, state⟩)).setPhase session
          (.preparingMember (some (.ok id))) := by
  have hhas := (Bool.not_eq_true _).mpr (JsMap.has_eq_false_iff.mpr hn)
  exact congrArg (fun v : Server =>
    v.setPhase session (.preparingMember (some (.ok id)))) (if_neg hhas)

/-! ## §3. References are sound. -/

/-- A reference that is stored is the one of a mirrored space. -/
structure Mirrored (v : Server) : Prop where
  spaces : ∀ uuid ref, v.spaces.get? uuid = some ref →
    v.uuidOf ref = some uuid
  fresh : ∀ ref, v.uuidOf ref ≠ none → ref < v.spaceRefGen
  members : ∀ m ref, v.members.get? m = some ref → m ∈ v.membersOf ref
  mirrors : ∀ session x ref, v.sessions.get? session = some x →
    x.mirror = some ref → v.uuidOf ref ≠ none

theorem uuidOf_of_mem {v : Server} {ref : SpaceRef} {m : MemberId}
    (h : m ∈ v.membersOf ref) : v.uuidOf ref ≠ none := by
  obtain ⟨space, hspace, -⟩ := mem_membersOf.mp h
  unfold uuidOf
  rw [hspace]
  simp

/-- What leaves the mirrors alone keeps them in order. -/
theorem Mirrored.frame (h : Mirrored v) (hf : MirrorFrame v v')
    (hm : ∀ session x ref, v'.sessions.get? session = some x →
      x.mirror = some ref → v.uuidOf ref ≠ none) : Mirrored v' where
  spaces uuid ref hget := by
    rw [hf.spaces] at hget
    rw [hf.uuidOf]
    exact h.spaces uuid ref hget
  fresh ref href := by
    rw [hf.uuidOf] at href
    rw [hf.spaceRefGen]
    exact h.fresh ref href
  members m ref hget := by
    rw [hf.members] at hget
    rw [hf.membersOf]
    exact h.members m ref hget
  mirrors session x ref hx href := by
    rw [hf.uuidOf]
    exact hm session x ref hx href

/-- Sessions that stay in their stage keep their mirror. -/
theorem Mirrored.keeps_mirrors (h : Mirrored v) (hk : Keeps v v')
    (session : SessionId) (x' : Session) (ref : SpaceRef)
    (hx' : v'.sessions.get? session = some x')
    (href : x'.mirror = some ref) : v.uuidOf ref ≠ none := by
  obtain ⟨x, hx, hxy⟩ := hk.before hx'
  have hmirror : x'.mirror = x.mirror := by rw [hxy.rest]
  rw [hmirror] at href
  exact h.mirrors session x ref hx href

/-- Writing a session, and not its mirror, keeps them in order. -/
theorem Mirrored.puts_mirrors (h : Mirrored v) {u : Server}
    {session : SessionId} {x x' : Session} (hp : Puts u session x' v')
    (hu : u.sessions = v.sessions) (hx : v.sessions.get? session = some x)
    (hm : x'.mirror = x.mirror ∨
      x'.mirror = v.spaces.get? x.auth.spaceUuid)
    (session' : SessionId) (y : Session) (ref : SpaceRef)
    (hy : v'.sessions.get? session' = some y)
    (href : y.mirror = some ref) : v.uuidOf ref ≠ none := by
  by_cases heq : session' = session
  · rw [heq, hp.self] at hy
    cases hy
    rcases hm with hm | hm
    · rw [hm] at href
      exact h.mirrors session x ref hx href
    · rw [hm] at href
      rw [h.spaces _ _ href]
      simp
  · rw [hp.others session' heq, hu] at hy
    exact h.mirrors session' y ref hy href

/-- Whatever a client or a session does at a server. -/
theorem Mirrored.call {serverId : ServerId} {a : SystemAction}
    {p : Server × Option Request} (h : Mirrored v)
    (hreg : Registered v) (hc : System.ServerCall serverId v a p) :
    Mirrored p.1 := by
  refine h.frame (call_mirrorFrame hc) ?_
  cases hc with
  | connect auth =>
      intro session x ref hx href
      rcases start_sessions hx with hx | ⟨result, rfl⟩
      · exact h.mirrors session x ref hx href
      · cases href
  | resume hx hres =>
      cases resumes_of_resume hx hres with
      | rejected _ hputs => exact h.puts_mirrors hputs rfl hx (.inl rfl)
      | spacePrepared _ _ hputs =>
          exact h.puts_mirrors hputs rfl hx (.inl rfl)
      | spaceGone _ _ hputs => exact h.puts_mirrors hputs rfl hx (.inl rfl)
      | unmirrored _ _ hputs => exact h.puts_mirrors hputs rfl hx (.inl rfl)
      | joined _ _ hputs =>
          refine h.puts_mirrors hputs ?_ hx (.inr rfl)
          rfl
  | @close session x hx _ =>
      cases hm : x.memberId with
      | none =>
          exact h.puts_mirrors (close_eq_none serverId hx hm).1 rfl hx
            (.inl rfl)
      | some memberId =>
          refine h.puts_mirrors (close_eq_some serverId hx hm).1 ?_ hx
            (.inl rfl)
          rfl
  | updateMemberState newState cId _ _ _ =>
      exact h.keeps_mirrors (updateMemberState_keeps hreg _ _ newState cId)
  | forward => exact h.mirrors

/-- Mirroring a snapshot keeps the mirrors in order. -/
theorem Mirrored.snapshot (h : Mirrored v) (uuid : Uuid)
    (clientSideSpace : ClientSideSpace) (caps : Json) :
    let v' := clientSideSpace.members.foldl
      (fun v' m => v'.addMember m.id v.spaceRefGen m.data m.state)
      (v.addSpace uuid clientSideSpace.data caps)
    Mirrored v' ∧ v'.spaces = v.spaces.set uuid v.spaceRefGen ∧
      (∀ ref, v'.uuidOf ref = if ref = v.spaceRefGen then some uuid
        else v.uuidOf ref) ∧
      (∀ ref m, m ∈ v'.membersOf ref ↔ m ∈ v.membersOf ref ∨
        m ∈ clientSideSpace.members.map ClientSideMember.id ∧
          ref = v.spaceRefGen) ∧
      ∀ m, v'.members.get? m =
        if m ∈ clientSideSpace.members.map ClientSideMember.id then
          some v.spaceRefGen
        else v.members.get? m := by
  -- the new reference is fresh
  have hold : ∀ ref, v.uuidOf ref ≠ none → ref ≠ v.spaceRefGen := by
    rintro ref href rfl
    exact Nat.lt_irrefl _ (h.fresh _ href)
  have hnew : ∀ ref, (v.addSpace uuid clientSideSpace.data caps).uuidOf ref
      = if ref = v.spaceRefGen then some uuid else v.uuidOf ref := by
    intro ref
    unfold uuidOf addSpace
    dsimp only
    rw [JsMap.get?_set]
    split <;> rfl
  -- the new space is empty, before its members are added
  have hempty : ∀ ref m,
      m ∈ (v.addSpace uuid clientSideSpace.data caps).membersOf ref ↔
        m ∈ v.membersOf ref := by
    intro ref m
    by_cases heq : ref = v.spaceRefGen
    · refine iff_of_false ?_ fun hm => hold ref (uuidOf_of_mem hm) heq
      unfold membersOf addSpace
      dsimp only
      rw [heq, JsMap.get?_set_self]
      exact List.not_mem_nil
    · unfold membersOf addSpace
      dsimp only
      rw [JsMap.get?_set_of_ne _ _ heq]
  -- they are added in turn, each to the new space
  obtain ⟨h₁, h₂, h₃, h₄, h₅⟩ := addMembers_spec v.spaceRefGen
    clientSideSpace.members (v.addSpace uuid clientSideSpace.data caps)
    (by rw [hnew, if_pos rfl]; simp)
  have huuid := fun ref => (h₃ ref).trans (hnew ref)
  have hmem := fun ref m => (h₄ ref m).trans (or_congr_left (hempty ref m))
  refine ⟨⟨?_, ?_, ?_, ?_⟩, h₁, huuid, hmem, h₅⟩
  -- the space is stored under its uuid, the others as before
  · intro uuid' ref hget
    rw [h₁] at hget
    have hget : (v.spaces.set uuid v.spaceRefGen).get? uuid' = some ref :=
      hget
    rw [huuid]
    rw [JsMap.get?_set] at hget
    split at hget
    · rename_i heq
      cases hget
      rw [if_pos rfl, heq]
    · have href := h.spaces uuid' ref hget
      rw [if_neg (hold ref (by rw [href]; simp)), href]
  -- the new reference is below the next one
  · intro ref href
    rw [h₂]
    show ref < v.spaceRefGen + 1
    rw [huuid] at href
    by_cases heq : ref = v.spaceRefGen
    · rw [heq]
      exact Nat.lt_succ_self _
    · rw [if_neg heq] at href
      exact Nat.lt_succ_of_lt (h.fresh ref href)
  -- who is in the snapshot is mirrored in the new space
  · intro m ref hget
    rw [h₅] at hget
    rw [hmem]
    split at hget
    · rename_i hin
      cases hget
      exact .inr ⟨hin, rfl⟩
    · exact .inl (h.members m ref hget)
  -- sessions refer to mirrors from before
  · intro session x ref hx href
    rw [(mirror_sessions uuid clientSideSpace caps v).1] at hx
    have hmirror := h.mirrors session x ref hx href
    rw [huuid, if_neg (hold ref hmirror)]
    exact hmirror

/-- `_addMember` and the broadcast after it do so. -/
theorem Mirrored.addMember (h : Mirrored v) (id : MemberId) {ref : SpaceRef}
    (data : MemberData) (state : MemberState)
    (href : v.uuidOf ref ≠ none) :
    Mirrored (v.addMember id ref data state) where
  spaces uuid ref' hget := by
    rw [uuidOf_addMember]
    exact h.spaces uuid ref' hget
  fresh ref' href' := by
    rw [uuidOf_addMember] at href'
    exact h.fresh ref' href'
  members m ref' hget := by
    rw [membersOf_addMember v id data state href]
    have hget : (v.members.set id ref).get? m = some ref' := hget
    rw [JsMap.get?_set] at hget
    split at hget
    · rename_i heq
      cases hget
      exact .inr ⟨heq, rfl⟩
    · exact .inl (h.members m ref' hget)
  mirrors session x ref' hx hm := by
    rw [uuidOf_addMember]
    exact h.mirrors session x ref' hx hm

/-- `_removeMember` does so. -/
theorem Mirrored.removeMember (h : Mirrored v) {id : MemberId}
    {ref : SpaceRef} (href : v.members.get? id = some ref) :
    Mirrored (v.removeMember id) := by
  have hfields : (v.removeMember id).spaces = v.spaces ∧
      (v.removeMember id).spaceRefGen = v.spaceRefGen := by
    unfold Server.removeMember
    rw [href]
    exact ⟨rfl, rfl⟩
  refine ⟨?_, ?_, ?_, ?_⟩
  · intro uuid ref' hget
    rw [hfields.1] at hget
    rw [uuidOf_removeMember]
    exact h.spaces uuid ref' hget
  · intro ref' href'
    rw [uuidOf_removeMember] at href'
    rw [hfields.2]
    exact h.fresh ref' href'
  · intro m ref' hget
    rw [members_removeMember href, JsMap.get?_delete] at hget
    rw [membersOf_removeMember href]
    split at hget
    · cases hget
    · rename_i hne
      exact ⟨h.members m ref' hget, fun heq => hne heq.1⟩
  · intro session x ref' hx hm
    rw [(v.removeMember_eq id).1] at hx
    rw [uuidOf_removeMember]
    exact h.mirrors session x ref' hx hm

/-- Writing the phase of a session does so. -/
theorem Mirrored.setPhase (h : Mirrored v) (session : SessionId)
    (phase : Phase) : Mirrored (v.setPhase session phase) := by
  refine h.frame (.of_eq rfl rfl rfl rfl) ?_
  intro session' x ref hx href
  have hx : (v.sessions.modify session fun x => { x with phase }).get?
      session' = some x := hx
  rw [JsMap.get?_modify] at hx
  split at hx
  · obtain ⟨y, hy, rfl⟩ := Option.map_eq_some_iff.mp hx
    exact h.mirrors session y ref hy href
  · exact h.mirrors session' x ref hx href

theorem Mirrored.broadcast (h : Mirrored v) (ids : List MemberId)
    (event : ServerToClientEvent) : Mirrored (v.broadcast ids event) := by
  refine h.frame (broadcast_mirrorFrame v ids event) ?_
  obtain ⟨sessions, heq, hget⟩ := v.broadcast_eq event ids
  rw [heq]
  intro session x ref hx href
  have hx : sessions.get? session = some x := hx
  rw [hget] at hx
  obtain ⟨y, hy, rfl⟩ := Option.map_eq_some_iff.mp hx
  exact h.mirrors session y ref hy href

theorem Mirrored.relays {c : Coord Publisher} (h : Mirrored v)
    (hreg : Registered v) (hr : System.Relays c v v') : Mirrored v' := by
  have hk := relays_keeps hreg hr
  cases hr with
  | heard heard =>
      exact h.frame (hears_mirrorFrame heard v) (h.keeps_mirrors hk)
  | @acked _ _ _ e session he heard =>
      have hemit : MirrorFrame v (v.emit session e) := .of_eq rfl rfl rfl rfl
      exact h.frame (hemit.trans (hears_mirrorFrame heard _))
        (h.keeps_mirrors hk)
  | rejected session error =>
      exact h.frame (.of_eq rfl rfl rfl rfl) (h.keeps_mirrors hk)
  | spacePrepared caps hx hp hs =>
      rw [onSpacePrepared_eq]
      apply Mirrored.setPhase
      split
      · exact h
      · exact (h.snapshot _ _ caps).1
  | spaceDeleted uuid =>
      refine ⟨fun uuid' ref hget => ?_, h.fresh, h.members, h.mirrors⟩
      exact h.spaces uuid' ref (JsMap.get?_of_get?_delete hget)

/-- A member is added to the mirror of its space. -/
theorem Mirrored.memberPrepared (h : Mirrored v) (session : SessionId)
    (uuid : Uuid) (data : MemberData) (state : MemberState)
    (id : MemberId) :
    Mirrored (v.onMemberPrepared session uuid data state id) := by
  unfold onMemberPrepared
  apply Mirrored.setPhase
  split
  · exact h
  · split
    · exact h
    · rename_i ref href
      apply Mirrored.broadcast
      apply h.addMember
      rw [h.spaces uuid ref href]
      simp

/-- A member is taken out of its mirror. -/
theorem Mirrored.memberDeleted (h : Mirrored v) (serverId : ServerId)
    (memberId : MemberId) :
    Mirrored (v.onMemberDeleted serverId memberId).1 := by
  cases href : v.members.get? memberId with
  | none =>
      unfold onMemberDeleted
      rw [href]
      exact h
  | some ref =>
      rw [onMemberDeleted_eq serverId href]
      apply Mirrored.broadcast
      exact h.removeMember href

end Server

/-- **References are sound at every point of a run.** -/
theorem System.Point.mirrored
    {G : Guard System SystemAction (Out Publisher)} {s : System}
    {reqs : List Request} (h : System.Point G s reqs) : ∀ serverId v,
      s.servers.get? serverId = some v → v.Mirrored := by
  refine h.server Server.Mirrored ?_ ?_ ?_
  · exact ⟨fun _ _ hm => (nomatch hm), fun _ hm => absurd rfl hm,
      fun _ _ hm => (nomatch hm), fun _ _ _ hx => (nomatch hx)⟩
  · intro tr s serverId v a p hpoint _ hv hI hc
    exact hI.call (hpoint.channels hv).registered hc
  · intro s reqs serverId v v' hpoint hv hI hc
    cases hc with
    | relayed hr => exact hI.relays (hpoint.channels hv).registered hr
    | memberPrepared => exact hI.memberPrepared _ _ _ _ _
    | memberDeleted => exact hI.memberDeleted _ _

/-! ## §4. Mirrors and the coordinator. -/

/-- The members of a snapshot are those of the space. -/
theorem mem_clientSideMembers {c : Coord Publisher} {uuid : Uuid}
    {space : Coordinator.Space} (hI : MemberWF c)
    (hs : c.spaces.get? uuid = some space) {m : MemberId} :
    m ∈ (SpaceService.clientSideMembers c space).map ClientSideMember.id ↔
      m ∈ c.membersOf uuid := by
  have hkeys : c.membersOf uuid = space.members.keys := by
    unfold Coord.membersOf
    rw [hs]
    rfl
  unfold SpaceService.clientSideMembers
  constructor
  · intro hm
    obtain ⟨a, ha, rfl⟩ := List.mem_map.mp hm
    obtain ⟨id, hid, h⟩ := List.mem_filterMap.mp ha
    obtain ⟨member, -, rfl⟩ := Option.map_eq_some_iff.mp h
    rw [hkeys]
    exact hid
  · intro hm
    -- a member of the table has a record
    have hstored := hI.stored m ((hI.mem uuid m).mp hm).1
    unfold Coord.spaceOf at hstored
    obtain ⟨uuid', huuid⟩ := Option.ne_none_iff_exists'.mp hstored
    obtain ⟨member, hmember, -⟩ := Option.map_eq_some_iff.mp huuid
    rw [hkeys] at hm
    refine List.mem_map.mpr ⟨⟨m, member.data, member.state⟩, ?_, rfl⟩
    refine List.mem_filterMap.mpr ⟨m, hm, ?_⟩
    rw [hmember]
    rfl

namespace Server

/-- The mirror of a server, and the members of the coordinator. -/
structure Mirrors (c : Coord Publisher) (v : Server) : Prop where
  /-- A mirrored space has members of that space. -/
  known : ∀ ref m, m ∈ v.membersOf ref → c.spaceOf m = v.uuidOf ref
  /-- A mirrored member that a session holds is there. -/
  present : ∀ session uuid m, v.held session = some (uuid, m) →
    v.members.get? m ≠ none → m ∈ c.membersOf uuid
  /-- Its owning space is the stored one, if one is stored. -/
  current : ∀ session uuid m ref ref', v.held session = some (uuid, m) →
    v.members.get? m = some ref → v.spaces.get? uuid = some ref' →
    ref' = ref

variable {v v' : Server} {c c' : Coord Publisher}

/-- What leaves the mirrors alone keeps them true. -/
theorem Mirrors.frame (h : Mirrors c v) (hf : MirrorFrame v v')
    (held : ∀ session, v'.held session = v.held session) : Mirrors c v' where
  known ref m hm := by
    rw [hf.uuidOf]
    exact h.known ref m ((hf.membersOf ref m).mp hm)
  present session uuid m hm hmem := by
    rw [held] at hm
    rw [hf.members] at hmem
    exact h.present session uuid m hm hmem
  current session uuid m ref ref' hm hmem hget := by
    rw [held] at hm
    rw [hf.members] at hmem
    rw [hf.spaces] at hget
    exact h.current session uuid m ref ref' hm hmem hget

/-- The coordinator has other members, besides those the sessions hold. -/
theorem Mirrors.coordinator (h : Mirrors c v)
    (hspace : ∀ m uuid, c.spaceOf m = some uuid → c'.spaceOf m = some uuid)
    (hmem : ∀ session uuid m, v.held session = some (uuid, m) →
      m ∈ c.membersOf uuid → m ∈ c'.membersOf uuid) : Mirrors c' v where
  known ref m hm := by
    have hknown := h.known ref m hm
    obtain ⟨uuid, huuid⟩ := Option.ne_none_iff_exists'.mp (uuidOf_of_mem hm)
    rw [huuid] at hknown ⊢
    exact hspace m uuid hknown
  present session uuid m hm hget :=
    hmem session uuid m hm (h.present session uuid m hm hget)
  current := h.current

/-- A snapshot has every member that a session of the server holds. -/
theorem Mirrors.snapshot (h : Mirrors c v) (hw : Mirrored v)
    (hI : MemberWF c) (hheld : ∀ session uuid m,
      v.held session = some (uuid, m) → c.spaceOf m = some uuid)
    {uuid : Uuid} {space : Coordinator.Space}
    (hs : c.spaces.get? uuid = some space) (caps : Json) :
    Mirrors c ((SpaceService.clientSideMembers c space).foldl
      (fun v' m => v'.addMember m.id v.spaceRefGen m.data m.state)
      (v.addSpace uuid space.data caps)) := by
  obtain ⟨-, hspaces, huuid, hmem, hmembers⟩ := hw.snapshot uuid
    ⟨uuid, space.data, SpaceService.clientSideMembers c space⟩ caps
  obtain ⟨hsessions, -⟩ := mirror_sessions uuid
    ⟨uuid, space.data, SpaceService.clientSideMembers c space⟩ caps v
  dsimp only at hspaces huuid hmem hmembers hsessions
  have hsnap : ∀ m, m ∈ (SpaceService.clientSideMembers c space).map
      ClientSideMember.id ↔ m ∈ c.members.keys ∧ c.spaceOf m = some uuid :=
    fun m => (mem_clientSideMembers hI hs).trans (hI.mem uuid m)
  refine ⟨?_, ?_, ?_⟩
  · intro ref m hm
    rw [hmem] at hm
    rw [huuid]
    rcases hm with hm | ⟨hm, rfl⟩
    · have hne : ref ≠ v.spaceRefGen := by
        rintro rfl
        exact Nat.lt_irrefl _ (hw.fresh _ (uuidOf_of_mem hm))
      rw [if_neg hne]
      exact h.known ref m hm
    · rw [if_pos rfl]
      exact ((hsnap m).mp hm).2
  · intro session uuid' m hm hget
    rw [held_of_sessions hsessions] at hm
    rw [hmembers] at hget
    by_cases hin : m ∈ (SpaceService.clientSideMembers c space).map
        ClientSideMember.id
    · exact (hI.mem uuid' m).mpr ⟨((hsnap m).mp hin).1, hheld _ _ _ hm⟩
    · rw [if_neg hin] at hget
      exact h.present session uuid' m hm hget
  · intro session uuid' m ref ref' hm hget hstored
    rw [held_of_sessions hsessions] at hm
    rw [hmembers] at hget
    rw [hspaces, JsMap.get?_set] at hstored
    have hspace := hheld session uuid' m hm
    by_cases heq : uuid' = uuid
    · rw [if_pos heq] at hstored
      cases hstored
      -- the snapshot has the member, since it was mirrored before
      split at hget
      · cases hget
        rfl
      · rename_i hnot
        refine absurd ((hsnap m).mpr ?_) hnot
        have hin := h.present session uuid' m hm (by rw [hget]; simp)
        rw [heq] at hin
        exact (hI.mem uuid m).mp hin
    · rw [if_neg heq] at hstored
      split at hget
      · rename_i hin
        have hother := ((hsnap m).mp hin).2
        rw [hspace] at hother
        cases hother
        exact absurd rfl heq
      · exact h.current session uuid' m ref ref' hm hget hstored

/-- What is relayed keeps them true. -/
theorem Mirrors.relays (h : Mirrors c v) (hw : Mirrored v)
    (hI : MemberWF c) (hreg : Registered v) (hheld : ∀ session uuid m,
      v.held session = some (uuid, m) → c.spaceOf m = some uuid)
    (hr : System.Relays c v v') : Mirrors c v' := by
  have hsame := relays_held hreg hr
  cases hr with
  | heard heard => exact h.frame (hears_mirrorFrame heard v) hsame
  | @acked _ _ _ e session he heard =>
      have hemit : MirrorFrame v (v.emit session e) := .of_eq rfl rfl rfl rfl
      exact h.frame (hemit.trans (hears_mirrorFrame heard _)) hsame
  | rejected session error => exact h.frame (.of_eq rfl rfl rfl rfl) hsame
  | @spacePrepared session x space caps hx hp hs =>
      rw [onSpacePrepared_eq] at hsame ⊢
      by_cases hhas : v.spaces.has x.auth.spaceUuid = true
      · rw [if_pos hhas] at hsame ⊢
        exact h.frame (.of_eq rfl rfl rfl rfl) hsame
      · rw [if_neg hhas] at hsame ⊢
        obtain ⟨hsessions, -⟩ := mirror_sessions x.auth.spaceUuid
          ⟨x.auth.spaceUuid, space.data,
            SpaceService.clientSideMembers c space⟩ caps v
        refine (h.snapshot hw hI hheld hs caps).frame
          (.of_eq rfl rfl rfl rfl) fun session' => ?_
        rw [hsame]
        exact (held_of_sessions hsessions session').symm
  | spaceDeleted uuid =>
      refine ⟨h.known, h.present, fun session uuid' m ref ref' hm hget hs => ?_⟩
      exact h.current session uuid' m ref ref' hm hget
        (JsMap.get?_of_get?_delete hs)

/-- A member the server removes is no longer mirrored. -/
theorem Mirrors.memberDeleted (h : Mirrors c v) (hreg : Registered v)
    (serverId : ServerId) {memberId : MemberId}
    (hspace : ∀ m uuid, c.spaceOf m = some uuid → c'.spaceOf m = some uuid)
    (hmem : ∀ uuid m, m ≠ memberId → m ∈ c.membersOf uuid →
      m ∈ c'.membersOf uuid) :
    Mirrors c' (v.onMemberDeleted serverId memberId).1 := by
  have hheld := onMemberDeleted_held hreg serverId memberId
  -- a member that is not mirrored is removed without a trace
  cases href : v.members.get? memberId with
  | none =>
      have hsame : (v.onMemberDeleted serverId memberId).1 = v := by
        unfold onMemberDeleted
        rw [href]
      rw [hsame]
      refine ⟨?_, ?_, h.current⟩
      · intro ref m hm
        obtain ⟨uuid, huuid⟩ :=
          Option.ne_none_iff_exists'.mp (uuidOf_of_mem hm)
        have hknown := h.known ref m hm
        rw [huuid] at hknown ⊢
        exact hspace m uuid hknown
      · intro session uuid m hm hget
        have hne : m ≠ memberId := by
          rintro rfl
          exact hget href
        exact hmem uuid m hne (h.present session uuid m hm hget)
  | some ref =>
      -- the broadcast after the removal changes no mirror
      rw [onMemberDeleted_eq serverId href] at hheld ⊢
      have hf := broadcast_mirrorFrame (v.removeMember memberId)
        (((v.removeMember memberId).membersOf ref).filter (· ≠ memberId))
        (.memberLeave memberId)
      have hspaces : (v.removeMember memberId).spaces = v.spaces := by
        unfold removeMember
        rw [href]
      -- those who are still mirrored are the others, where they were
      have hgone : ∀ m, (v.removeMember memberId).members.get? m ≠ none →
          m ≠ memberId ∧
            (v.removeMember memberId).members.get? m = v.members.get? m := by
        intro m hm
        rw [members_removeMember href, JsMap.get?_delete] at hm ⊢
        by_cases heq : m = memberId
        · rw [if_pos heq] at hm
          exact absurd rfl hm
        · exact ⟨heq, if_neg heq⟩
      refine ⟨?_, ?_, ?_⟩
      -- the three clauses, for members other than the one that goes
      · intro ref' m hm
        have hm := (membersOf_removeMember href ref' m).mp
          ((hf.membersOf ref' m).mp hm)
        rw [hf.uuidOf, uuidOf_removeMember]
        obtain ⟨uuid, huuid⟩ :=
          Option.ne_none_iff_exists'.mp (uuidOf_of_mem hm.1)
        have hknown := h.known ref' m hm.1
        rw [huuid] at hknown ⊢
        exact hspace m uuid hknown
      · intro session uuid m hm hget
        rw [hheld] at hm
        rw [hf.members] at hget
        obtain ⟨hne, heq⟩ := hgone m hget
        rw [heq] at hget
        exact hmem uuid m hne (h.present session uuid m hm hget)
      · intro session uuid m ref₁ ref₂ hm hget hstored
        rw [hheld] at hm
        rw [hf.members] at hget
        obtain ⟨-, heq⟩ := hgone m (by rw [hget]; simp)
        rw [heq] at hget
        rw [hf.spaces, hspaces] at hstored
        exact h.current session uuid m ref₁ ref₂ hm hget hstored

/-- A session was given the new member `id`, which is mirrored in the stored
space at most. -/
theorem Mirrors.added (h : Mirrors c v) (hw : Mirrored v) {id : MemberId}
    {uuid : Uuid} {session : SessionId}
    (howner : ∀ session uuid m, v.held session = some (uuid, m) →
      c.spaceOf m = some uuid) (hnew : c.spaceOf id = none)
    (hspace : ∀ m, c'.spaceOf m = if m = id then some uuid else c.spaceOf m)
    (hmem : ∀ uuid' m, m ∈ c'.membersOf uuid' ↔ m ∈ c.membersOf uuid' ∨
      m = id ∧ uuid' = uuid) (spaces : v'.spaces = v.spaces)
    (uuidOf : ∀ ref, v'.uuidOf ref = v.uuidOf ref)
    (membersOf : ∀ ref m, m ∈ v'.membersOf ref → m ∈ v.membersOf ref ∨
      m = id ∧ v.spaces.get? uuid = some ref)
    (members : ∀ m ref, v'.members.get? m = some ref →
      v.members.get? m = some ref ∨ m = id ∧ v.spaces.get? uuid = some ref)
    (held : ∀ session', v'.held session' = if session' = session then
      some (uuid, id) else v.held session') : Mirrors c' v' := by
  -- nobody knew the id
  have hnot : ∀ ref, id ∉ v.membersOf ref := by
    intro ref hin
    have hknown := h.known ref id hin
    rw [hnew] at hknown
    exact uuidOf_of_mem hin hknown.symm
  have hother : ∀ session' uuid' m, v.held session' = some (uuid', m) →
      m ≠ id := by
    intro session' uuid' m hm heq
    have hspace := howner session' uuid' m hm
    rw [heq, hnew] at hspace
    cases hspace
  refine ⟨?_, ?_, ?_⟩
  · intro ref m hm
    rw [uuidOf, hspace]
    rcases membersOf ref m hm with hm | ⟨rfl, href⟩
    · rw [if_neg fun heq : m = id => hnot ref (heq ▸ hm)]
      exact h.known ref m hm
    · rw [if_pos rfl, hw.spaces uuid ref href]
  · intro session' uuid' m hm hget
    rw [held] at hm
    rw [hmem]
    split at hm
    · cases hm
      exact .inr ⟨rfl, rfl⟩
    · obtain ⟨ref, href⟩ := Option.ne_none_iff_exists'.mp hget
      rcases members m ref href with hget | ⟨heq, -⟩
      · exact .inl (h.present session' uuid' m hm (by rw [hget]; simp))
      · exact absurd heq (hother session' uuid' m hm)
  · intro session' uuid' m ref ref' hm hget hstored
    rw [held] at hm
    rw [spaces] at hstored
    split at hm
    · cases hm
      rcases members id ref hget with hget | ⟨-, href⟩
      · exact absurd (hw.members id ref hget) (hnot ref)
      · rw [href] at hstored
        exact (Option.some.inj hstored).symm
    · rcases members m ref hget with hget | ⟨heq, -⟩
      · exact h.current session' uuid' m ref ref' hm hget hstored
      · exact absurd heq (hother session' uuid' m hm)

/-- The new member is in the stored space. -/
theorem Mirrors.memberPrepared (h : Mirrors c v) (hw : Mirrored v)
    (hI : MemberWF c) (hreg : Registered v) (hprep : Prepares v)
    (howner : ∀ session uuid m, v.held session = some (uuid, m) →
      c.spaceOf m = some uuid)
    {session : SessionId} {x : Session}
    (hx : v.sessions.get? session = some x)
    (hp : x.phase = .preparingMember none)
    (hk : c.statusOf x.auth.spaceUuid ≠ none)
    (hf : MemberFrame (MemberService.add c x.auth.memberData
      x.auth.joinState x.auth.spaceUuid) c') :
    Mirrors c' (v.onMemberPrepared session x.auth.spaceUuid
      x.auth.memberData x.auth.joinState c.memberIdGen) := by
  -- the member that is added is the next one, in the space of the session
  have hspace : ∀ m, c'.spaceOf m = if m = c.memberIdGen then
      some x.auth.spaceUuid else c.spaceOf m := by
    intro m
    rw [hf.spaceOf, spaceOf_add]
  have hmem : ∀ uuid m, m ∈ c'.membersOf uuid ↔ m ∈ c.membersOf uuid ∨
      m = c.memberIdGen ∧ uuid = x.auth.spaceUuid := by
    intro uuid m
    rw [hf.membersOf, membersOf_add _ _ _ _ hk]
  have hheld := fun session' => (onMemberPrepared_held hreg hprep hx hp
    x.auth.memberData x.auth.joinState c.memberIdGen session').2
  -- the ack adds it to the mirror where the space is stored, or nowhere
  refine h.added hw howner hI.spaceOf_new hspace hmem ?_ ?_ ?_ ?_ hheld
  all_goals unfold onMemberPrepared; dsimp only
  · split
    · rfl
    · split
      · rfl
      · exact (broadcast_mirrorFrame _ _ _).spaces
  · intro ref
    show Server.uuidOf (if _ then v else _) ref = _
    split
    · rfl
    · split
      · rfl
      · exact ((broadcast_mirrorFrame _ _ _).uuidOf ref).trans
          (uuidOf_addMember v _ _ _ _ ref)
  · intro ref m hm
    replace hm : m ∈ Server.membersOf (if _ then v else _) ref := hm
    split at hm
    · exact .inl hm
    · split at hm
      · exact .inl hm
      · rename_i ref' href
        have hin := ((broadcast_mirrorFrame _ _ _).membersOf ref m).mp hm
        rw [membersOf_addMember v _ _ _
          (by rw [hw.spaces _ _ href]; simp)] at hin
        rcases hin with hin | ⟨heq, rfl⟩
        · exact .inl hin
        · exact .inr ⟨heq, href⟩
  · intro m ref hget
    replace hget : (Server.members (if _ then v else _)).get? m
      = some ref := hget
    split at hget
    · exact .inl hget
    · split at hget
      · exact .inl hget
      · rename_i ref' href
        rw [(broadcast_mirrorFrame _ _ _).members] at hget
        replace hget : (v.members.set c.memberIdGen ref').get? m
          = some ref := hget
        rw [JsMap.get?_set] at hget
        split at hget
        · rename_i heq
          cases hget
          exact .inr ⟨heq, href⟩
        · exact .inl hget

end Server

namespace System

variable {G : Guard System SystemAction (Out Publisher)}

/-- A move leaves every mirror in agreement with the coordinator. -/
theorem Move.mirrors {sync : Bool} {s s' : System} {b : Request}
    {reqs later : List Request} (hpoint : Point G s later)
    (hready : Ready s sync b) (hm : Move s b s' reqs)
    (hb : ∀ S m, b = .removeMemberRequest m (.deleteMember S m) →
      ∃ session uuid, s.Holds S session uuid m)
    (h : ∀ S v, s.servers.get? S = some v → v.Mirrors s.coordinator)
    (S : ServerId) (v' : Server) (hv' : s'.servers.get? S = some v') :
    v'.Mirrors s'.coordinator := by
  have hI := (coordWF_reachable hpoint.reachable).member
  -- a session holds members of its own space only
  have howner : ∀ {S v}, s.servers.get? S = some v → ∀ session uuid m,
      v.held session = some (uuid, m) →
      s.coordinator.spaceOf m = some uuid := by
    intro S v hv session uuid m hm
    apply hpoint.owners.space S session
    unfold Holds held
    rwa [hv]
  -- by what the move does to members: nothing, one less, or one more
  cases hm.transfers hready with
  | relayed hf hv =>
      obtain ⟨v, hget, hr⟩ := hv S v' hv'
      have hmirrors := (h S v hget).relays (hpoint.mirrored S v hget) hI
        (hpoint.channels hget).registered (howner hget) hr
      refine hmirrors.coordinator (fun m uuid hs => ?_) ?_
      · rwa [hf.spaceOf]
      · intro _ uuid m _ hin
        rwa [hf.membersOf]
  | @removed S₀ memberId member hin hh hn hf hv =>
      have hspace : ∀ m uuid, s.coordinator.spaceOf m = some uuid →
          s'.coordinator.spaceOf m = some uuid := by
        intro m uuid hs
        rw [hf.spaceOf]
        exact hs
      have hmem : ∀ uuid m, m ≠ memberId →
          m ∈ s.coordinator.membersOf uuid →
          m ∈ s'.coordinator.membersOf uuid := by
        intro uuid m hne hin
        rw [hf.membersOf, membersOf_remove]
        exact ⟨hin, fun heq => hne heq.1⟩
      rw [hv] at hv'
      rcases JsMap.get?_modify_cases hv' with ⟨rfl, v, hget, rfl⟩ | ⟨hne, hget⟩
      · exact (h S v hget).memberDeleted (hpoint.channels hget).registered S
          hspace hmem
      · -- the other servers hold other members
        refine (h S v' hget).coordinator hspace ?_
        intro session uuid m hheld hin
        apply hmem uuid m _ hin
        rintro rfl
        obtain ⟨session', uuid', hold⟩ := hb S₀ m rfl
        refine hne (hpoint.owners.unique S session uuid S₀ session' uuid' m ?_
          hold).1
        unfold Holds held
        rwa [hget]
  | @added _ S₀ session x hx hp hk hf hv =>
      rw [hv] at hv'
      rcases JsMap.get?_modify_cases hv' with ⟨rfl, v, hget, rfl⟩ | ⟨-, hget⟩
      · exact (h S v hget).memberPrepared (hpoint.mirrored S v hget) hI
          (hpoint.channels hget).registered (hpoint.prepares S v hget)
          (howner hget) (get?_of_sessionOf hx hget) hp hk hf
      · refine (h S v' hget).coordinator ?_ ?_
        -- the other servers do not mirror a member of this id
        · intro m uuid hs
          rw [hf.spaceOf, spaceOf_add, if_neg ?_]
          · exact hs
          · rintro rfl
            rw [hI.spaceOf_new] at hs
            cases hs
        · intro _ uuid m _ hin
          rw [hf.membersOf, membersOf_add _ _ _ _ hk]
          exact .inl hin

/-- **Mirrors agree with the coordinator at every point of a run.** -/
theorem Point.mirrors {s : System} {reqs : List Request}
    (h : Point G s reqs) : ∀ serverId v,
      s.servers.get? serverId = some v → v.Mirrors s.coordinator := by
  induction h with
  | initial => exact fun _ _ hv => nomatch hv
  | flushed out _ ih => exact ih
  | started _ _ ih =>
      refine JsMap.forall_set ih ⟨?_, ?_, ?_⟩
      · exact fun _ _ hm => absurd hm List.not_mem_nil
      · exact fun _ _ _ hm => nomatch hm
      · exact fun _ _ _ _ _ hm => nomatch hm
  | called h _ hv hc ih =>
      refine JsMap.forall_set ih
        ((ih _ _ hv).frame (Server.call_mirrorFrame hc) ?_)
      exact Server.call_held (h.channels hv) (h.linked.fresh _ _ · · hv) hc
  | published h hready hm _ ih =>
      refine hm.mirrors h hready ?_ ih
      rintro S m rfl
      exact h.owners.removing S m List.mem_cons_self
  | coordinated h _ hready hm _ ih =>
      refine hm.mirrors h hready ?_ ih
      rintro S m rfl
      cases hready with
      | coordinator ha => cases ha

end System

end Twolk.Signaling
