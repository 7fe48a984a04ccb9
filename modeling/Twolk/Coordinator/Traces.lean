/-
  Twolk.Coordinator.Traces
  ────────────────────────
  **WHAT A REMOVED MEMBER LEAVES BEHIND.**

  A member's transports are referred to from four places: the allocator's
  table, the sets of the routers, its own consumer map, and the consumer
  maps of the others.  `onRemoveMemberRequest` takes its producer and the
  values of its own map out of the first.  The router sets are only ever
  dropped whole, with the space; the other members' maps, their transports
  from its producer and the requests under way are not looked at.

  `removalsTraceless` is the condition under which that is enough.  A removal
  that meets it leaves no trace, and nothing that happens later brings one
  back (`noTrace_effect`).

  Main results:
    * `noTrace_effect`     — what has left no trace stays that way,
    * `removed_noTrace`    — a guarded removal leaves none,
    * `noTrace_of_removed` — both, over every guarded run.
-/
import Twolk.Coordinator.Mesh
import Twolk.Coordinator.Turns

namespace Twolk.Coordinator

open Twolk.Lib

variable {κ : Type}

/-! ## §1. Traces. -/

/-- Transport `t` is owned by member `id` or consumes from its producer. -/
def Coord.tied (c : Coord κ) (id : MemberId) (t : TransportId) : Prop :=
  ∃ T ∈ c.transportHeap.get? t, T.owningMember = id ∨
    ∃ p ∈ c.producerOf id, T.consumesFromTransportId = some p

instance (c : Coord κ) (id : MemberId) (t : TransportId) :
    Decidable (c.tied id t) :=
  inferInstanceAs (Decidable (∃ T ∈ c.transportHeap.get? t, _))

/-- **No trace** of member `id` in the tables. -/
structure NoTrace (id : MemberId) (c : Coord κ) : Prop where
  transports : ∀ t ∈ c.transports.keys, ¬ c.tied id t
  routers : ∀ r ∈ c.routers.keys, ∀ R ∈ c.routerHeap.get? r,
    ∀ t ∈ R.transports.keys, ¬ c.tied id t
  members : ∀ m ∈ c.members.keys, ∀ M ∈ c.memberHeap.get? m,
    M.memberToConsumerMap.has id = false

/-- `id` was a member and is none any more. -/
def Coord.gone (c : Coord κ) (id : MemberId) : Prop :=
  c.spaceOf id ≠ none ∧ id ∉ c.members.keys

instance (c : Coord κ) (id : MemberId) : Decidable (c.gone id) :=
  inferInstanceAs (Decidable (_ ∧ _))

/-! ## §2. The condition. -/

/-- The router that goes with the space, when the removal of `id` ends it:
the last member, with no server subscribed. -/
def Coord.endedRouter (c : Coord κ) (id : MemberId) : Option RouterId :=
  (c.memberHeap.get? id).bind fun m =>
    (c.spaces.get? m.owningSpace).bind fun space =>
      if space.status = .running ∧
          SpaceService.subscriberCount c m.owningSpace = 0 ∧
          (space.members.delete id).size = 0 then space.primaryRouter
      else none

/-- The removal of `id` takes transport `t` out of the table. -/
def Coord.dropped (c : Coord κ) (id : MemberId) (t : TransportId) : Prop :=
  (∃ M ∈ c.memberHeap.get? id, M.producer = some t ∨
    some t ∈ M.memberToConsumerMap.entries.map Prod.snd) ∨
  ∃ r ∈ c.endedRouter id, r ∈ c.routers.keys ∧
    ∃ R ∈ c.routerHeap.get? r, t ∈ R.transports.keys

instance (c : Coord κ) (id : MemberId) (t : TransportId) :
    Decidable (c.dropped id t) :=
  inferInstanceAs (Decidable (_ ∨ _))

/-- The removal of `id` reaches all there is of it: every transport tied to
it is dropped or out of the table, its router goes with the space or has
gone before, and nobody else has an entry for it.

The last leave through a signaling server is not such a removal: the server
unsubscribes from inside the ack, so the space keeps its router, with the
member's transports on it, until the removal has run. -/
structure Coord.leavesNothing (c : Coord κ) (id : MemberId) : Prop where
  transports : ∀ t ∈ c.transports.keys, c.tied id t → c.dropped id t
  routers : ∀ r ∈ c.routers.keys, ∀ R ∈ c.routerHeap.get? r,
    ∀ t ∈ R.transports.keys, c.tied id t → c.endedRouter id = some r
  members : ∀ m ∈ c.members.keys, m ≠ id → ∀ M ∈ c.memberHeap.get? m,
    M.memberToConsumerMap.has id = false

instance (c : Coord κ) (id : MemberId) : Decidable (c.leavesNothing id) :=
  decidable_of_iff
    ((∀ t ∈ c.transports.keys, c.tied id t → c.dropped id t) ∧
      (∀ r ∈ c.routers.keys, ∀ R ∈ c.routerHeap.get? r,
        ∀ t ∈ R.transports.keys, c.tied id t →
          c.endedRouter id = some r) ∧
      ∀ m ∈ c.members.keys, m ≠ id → ∀ M ∈ c.memberHeap.get? m,
        M.memberToConsumerMap.has id = false)
    ⟨fun h => ⟨h.1, h.2.1, h.2.2⟩,
      fun h => ⟨h.transports, h.routers, h.members⟩⟩

/-- The continuation starts the mesh of a member that has been removed,
while a member of its space has a producer in the table. -/
def Task.meshesLate (c : Coord κ) : Task κ → Prop
  | .producerAllocated p => ∃ T ∈ c.transportHeap.get? p,
      T.owningMember ∉ c.members.keys ∧
        ∃ uuid ∈ c.spaceOf T.owningMember, ∃ m ∈ c.membersOf uuid,
          ∃ q ∈ c.producerOf m, q ∈ c.transports.keys
  | _ => False

instance (c : Coord κ) : ∀ t : Task κ, Decidable (t.meshesLate c)
  | .producerAllocated p => inferInstanceAs (Decidable
      (∃ T ∈ c.transportHeap.get? p, T.owningMember ∉ c.members.keys ∧
        ∃ uuid ∈ c.spaceOf T.owningMember, ∃ m ∈ c.membersOf uuid,
          ∃ q ∈ c.producerOf m, q ∈ c.transports.keys))
  | .allocated .. | .routerRemoved .. | .transitioned .. | .caught .. =>
      .isFalse id

/-- An accepted removal reaches all there is of the member, and no mesh
starts for a member that has been removed. -/
def removalsTraceless : Guard (Coord κ) (Action κ) (Out κ)
  | _, c, .removeMemberRequest id cb => id ∈ c.members.keys →
      ¬ c.ignores (.removeMemberRequest id cb) → c.leavesNothing id
  | _, c, .resume i => ∀ t ∈ c.tasks[i]?, ¬ t.meshesLate c
  | _, _, _ => True

instance (tr : List (Out κ)) (c : Coord κ) :
    ∀ a, Decidable (removalsTraceless tr c a)
  | .removeMemberRequest id cb => inferInstanceAs (Decidable
      (id ∈ c.members.keys →
        ¬ c.ignores (.removeMemberRequest id cb) → c.leavesNothing id))
  | .resume i =>
      inferInstanceAs (Decidable (∀ t ∈ c.tasks[i]?, ¬ t.meshesLate c))
  | .createSpaceRequest .. | .readSpaceRequest .. |
    .subscribeToSpaceRequest .. | .unsubscribeFromSpaceRequest .. |
    .addMemberRequest .. | .spaceUpdateStream .. | .tryJoinSpaceRequest .. |
    .signalingServerConnected .. | .signalingServerDisconnected _ |
    .mediaWorkerConnected _ | .mediaWorkerDisconnected _ | .routerAck .. |
    .routerNack .. | .transportAck .. | .transportNack .. | .updateAck .. |
    .updateNack .. => .isTrue trivial

/-! ## §3. What has left no trace stays that way. -/

section Kept

variable {c c' : Coord κ} {id : MemberId}

/-- A stretch that adds no reference to a transport. -/
structure TraceFrame (c c' : Coord κ) : Prop where
  memberHeap : c'.memberHeap = c.memberHeap
  transportHeap : ∀ t, (c'.transportHeap.get? t).map
      (fun T => (T.owningMember, T.consumesFromTransportId))
    = (c.transportHeap.get? t).map
      fun T => (T.owningMember, T.consumesFromTransportId)
  transports : ∀ t ∈ c'.transports.keys, t ∈ c.transports.keys
  onRouter : ∀ r ∈ c'.routers.keys, ∀ R' ∈ c'.routerHeap.get? r,
    ∀ t ∈ R'.transports.keys, r ∈ c.routers.keys ∧
      ∃ R ∈ c.routerHeap.get? r, t ∈ R.transports.keys
  members : ∀ m ∈ c'.members.keys, m ∈ c.members.keys

theorem TraceFrame.refl (c : Coord κ) : TraceFrame c c where
  memberHeap := rfl
  transportHeap _ := rfl
  transports _ h := h
  onRouter _ hr R hR _ ht := ⟨hr, R, hR, ht⟩
  members _ h := h

theorem TraceFrame.trans {c'' : Coord κ} (h : TraceFrame c c')
    (h' : TraceFrame c' c'') : TraceFrame c c'' where
  memberHeap := h'.memberHeap.trans h.memberHeap
  transportHeap t := (h'.transportHeap t).trans (h.transportHeap t)
  transports t ht := h.transports t (h'.transports t ht)
  onRouter r hr R'' hR'' t ht := by
    obtain ⟨hr', R', hR', ht'⟩ := h'.onRouter r hr R'' hR'' t ht
    exact h.onRouter r hr' R' hR' t ht'
  members m hm := h.members m (h'.members m hm)

/-- A stretch that leaves every record alone. -/
theorem TraceFrame.of_eq (memberHeap : c'.memberHeap = c.memberHeap)
    (transportHeap : c'.transportHeap = c.transportHeap)
    (routerHeap : c'.routerHeap = c.routerHeap)
    (transports : ∀ t ∈ c'.transports.keys, t ∈ c.transports.keys)
    (routers : ∀ r ∈ c'.routers.keys, r ∈ c.routers.keys)
    (members : ∀ m ∈ c'.members.keys, m ∈ c.members.keys) :
    TraceFrame c c' where
  memberHeap := memberHeap
  transportHeap t := by rw [transportHeap]
  transports := transports
  onRouter r hr R' hR' t ht := ⟨routers r hr, R', routerHeap ▸ hR', ht⟩
  members := members

/-- Removing a router only takes references away. -/
theorem remove_traceFrame (c : Coord κ) (r : RouterId) :
    TraceFrame c (RouterAllocator.remove c r) := by
  have htransports := fun t h =>
    ((remove_transports (c := c) (r := r) (t := t)).mp h).1
  have hrouters := (remove_routerFrame c r).routers
  obtain ⟨transports, routers, l, heq, -⟩ := remove_eq c r
  rw [heq] at htransports hrouters ⊢
  exact .of_eq rfl rfl rfl htransports hrouters fun _ h => h

/-- A transport is tied to a member by its owner and its source. -/
theorem tied_iff {t : TransportId} : c.tied id t ↔
    ∃ p ∈ (c.transportHeap.get? t).map
      (fun T => (T.owningMember, T.consumesFromTransportId)),
    p.1 = id ∨ ∃ q ∈ c.producerOf id, p.2 = some q := by
  unfold Coord.tied
  cases c.transportHeap.get? t <;> simp

/-- Who a transport is tied to stays. -/
theorem TraceFrame.tied (h : TraceFrame c c') {t : TransportId} :
    c'.tied id t ↔ c.tied id t := by
  rw [tied_iff, tied_iff, h.transportHeap, Coord.producerOf, h.memberHeap]
  rfl

/-- Nothing is left where nothing is added. -/
theorem NoTrace.frame (hI : NoTrace id c) (h : TraceFrame c c') :
    NoTrace id c' where
  transports t ht htied :=
    hI.transports t (h.transports t ht) (h.tied.mp htied)
  routers r hr R' hR' t ht htied := by
    obtain ⟨hr', R, hR, ht'⟩ := h.onRouter r hr R' hR' t ht
    exact hI.routers r hr' R hR t ht' (h.tied.mp htied)
  members m hm M hM := hI.members m (h.members m hm) M (h.memberHeap ▸ hM)

/-- A request for a transport that is not tied to the member. -/
theorem NoTrace.request (hI : NoTrace id c) (router : RouterId)
    {member : MemberId} (source : TransportId)
    (hm : member ≠ id) (hs : c.producerOf id ≠ some source) :
    NoTrace id
      (TransportAllocator.request c router member (some source)) := by
  have htied : ∀ t, (TransportAllocator.request c router member
      (some source)).tied id t → c.tied id t ∧ t ≠ c.transportIdGen := by
    rintro t ⟨T, hT', h⟩
    rw [transportHeap_request] at hT'
    split at hT'
    · -- the new transport
      cases hT'
      rcases h with h | ⟨p, hp, h⟩
      · exact absurd h hm
      · cases h
        exact absurd hp hs
    · rename_i hne
      exact ⟨⟨T, hT', h⟩, hne⟩
  constructor
  · intro t ht h
    obtain ⟨h, hne⟩ := htied t h
    rcases JsSet.mem_keys_add.mp ht with heq | ht
    · exact hne heq
    · exact hI.transports t ht h
  · intro r hr R' hR' t ht h
    obtain ⟨hold, hne⟩ := htied t h
    have hR' : (c.routerHeap.modify router fun R =>
        { R with
          transports := JsSet.add R.transports c.transportIdGen }).get? r
        = some R' := hR'
    rcases JsMap.get?_modify_cases hR' with ⟨rfl, R, hR, rfl⟩ | ⟨-, hR'⟩
    · rcases JsSet.mem_keys_add.mp ht with heq | ht
      · exact hne heq
      · exact hI.routers r hr R hR t ht hold
    · exact hI.routers r hr R' hR' t ht hold
  · exact hI.members

/-- By induction on the edges: none of them is tied to the member. -/
theorem NoTrace.requestAll {router : RouterId} :
    ∀ (edges : List (MemberId × TransportId)) {c : Coord κ},
      NoTrace id c →
      (∀ e ∈ edges, e.1 ≠ id ∧ c.producerOf id ≠ some e.2) →
      NoTrace id (requestAll router c edges)
  | [], _, hI, _ => hI
  | e :: edges, c, hI, he => by
      obtain ⟨hm, hs⟩ := he e List.mem_cons_self
      exact NoTrace.requestAll edges (hI.request router e.2 hm hs)
        fun e' h => he e' (List.mem_cons_of_mem _ h)

/-- A registered transport that is the producer of the member is tied to
it. -/
theorem TransportWF.tied_producer (hT : TransportWF c) {p : TransportId}
    (hp : c.producerOf id = some p) : c.tied id p := by
  obtain ⟨M, hM, -⟩ := Option.bind_eq_some_iff.mp hp
  obtain ⟨q, Q, hq, hQ, ho, -⟩ := hT.producer id M.owningSpace
    (by rw [Coord.spaceOf, hM]; rfl)
  cases hp.symm.trans hq
  exact ⟨Q, hQ, .inl ho⟩

/-- The mesh of another member, or of the member itself when no producer is
left to consume from. -/
theorem NoTrace.mesh (hI : NoTrace id c) (hwf : CoordWF c)
    (hid : id ∉ c.members.keys) {i : Nat} {p : TransportId}
    (ht : c.tasks[i]? = some (.producerAllocated p))
    (hl : ¬ (Task.producerAllocated p).meshesLate c) :
    NoTrace id (MemberService.allocateConsumers (c.without i) p) := by
  obtain ⟨T, uuid, hT, hn, hu, heq⟩ := mesh_eq hwf.transport hwf.member ht
  rw [heq]
  have hf : TraceFrame c
      ((c.without i).emit (.consumersAllocated T.owningMember)) :=
    .of_eq rfl rfl rfl (fun _ h => h) (fun _ h => h) fun _ h => h
  refine NoTrace.requestAll _ (hI.frame hf) fun e he => ?_
  show e.1 ≠ id ∧ c.producerOf id ≠ some e.2
  -- whoever is meshed with is a member, and what it consumes is registered
  have hsource : ∀ q, q ∈ c.transports.keys → c.producerOf id ≠ some q :=
    fun q hq hp => hI.transports q hq (hwf.transport.tied_producer hp)
  obtain ⟨other, hother, he⟩ := List.mem_flatMap.mp he
  have hmember := ((hwf.member.mem uuid other).mp hother).1
  unfold pairEdges at he
  split at he
  · cases he
  rcases List.mem_append.mp he with he | he
  · split at he
    · rename_i hp
      cases List.mem_singleton.mp he
      refine ⟨?_, hsource p (JsMap.has_eq_true_iff_mem.mp hp)⟩
      rintro rfl
      exact hid hmember
    · cases he
  · split at he
    · cases he
    rename_i q hq
    split at he
    · rename_i hreg
      rw [JsMap.has_eq_true_iff_mem] at hreg
      cases List.mem_singleton.mp he
      refine ⟨?_, hsource q hreg⟩
      rintro rfl
      exact hl ⟨T, hT, hid, uuid, hu, other, hother, q, hq, hreg⟩
    · cases he

/-- An ack writes under members whose producer is registered. -/
theorem NoTrace.transportAck (hI : NoTrace id c) (hwf : CoordWF c)
    {t : TransportId} (options : Json)
    (ht : t ∈ c.transportRequests.keys) :
    NoTrace id (TransportAllocator.onTransportAck c t options) := by
  obtain ⟨T, hT, -⟩ := hwf.transport.requested t ht
  have hne := hwf.transport.source_ne hT
  have hspec := onTransportAck_spec options hT hne
  -- the ack changes neither routers nor the registry of members
  have hrouter : (TransportAllocator.onTransportAck c t options).routerHeap
        = c.routerHeap ∧
      (TransportAllocator.onTransportAck c t options).routers = c.routers ∧
      (TransportAllocator.onTransportAck c t options).members
        = c.members := by
    rw [onTransportAck_eq options hT hne]
    exact ⟨rfl, rfl, rfl⟩
  generalize TransportAllocator.onTransportAck c t options = c'
    at hspec hrouter ⊢
  obtain ⟨hheap, hrouters, hmembers⟩ := hrouter
  -- no transport becomes tied to the member who has left
  have htied : ∀ t', c'.tied id t' → c.tied id t' := by
    rintro t' ⟨T', hT', h⟩
    rw [hspec.producerOf] at h
    rw [hspec.heap] at hT'
    split at hT'
    · rename_i heq
      cases hT'
      exact ⟨T, heq ▸ hT, h⟩
    · exact ⟨T', hT', h⟩
  constructor
  · rw [hspec.transports]
    exact fun t' ht' h => hI.transports t' ht' (htied t' h)
  · rw [hrouters, hheap]
    exact fun r hr R hR t' ht' h => hI.routers r hr R hR t' ht' (htied t' h)
  -- the entry that is added names the producer, who is still tied
  · rw [hmembers]
    intro m hm M' hM'
    obtain ⟨uuid, hu⟩ := Option.ne_none_iff_exists'.mp
      (hwf.member.stored m hm)
    obtain ⟨M, hM, -⟩ := Option.map_eq_some_iff.mp hu
    obtain ⟨M'', hM'', hmap⟩ := hspec.map m M id hM
    cases hM''.symm.trans hM'
    rw [if_neg] at hmap
    · have hold := hI.members m hm M hM
      rw [JsMap.has, hmap]
      exact hold
    · -- the producer of `id` is not registered
      rintro ⟨-, hsrc⟩
      obtain ⟨s, S, -, hs, hS, hown⟩ := consumesFromMember_eq_some hsrc
      exact hI.transports s hs ⟨S, hS, .inl hown⟩

/-- A new member brings no trace of an old one back. -/
theorem NoTrace.join (hI : NoTrace id c) (hwf : CoordWF c)
    (hid : c.spaceOf id ≠ none) (uuid : Uuid) (data : MemberData)
    (state : MemberState) (r : RouterId) :
    NoTrace id (TransportAllocator.request
      (MemberService.add c data state uuid) r c.memberIdGen none) := by
  have hspec := join_spec c uuid data state r
  have hne : id ≠ c.memberIdGen := by
    rintro rfl
    exact hid hwf.member.spaceOf_new
  have htied : ∀ t, (TransportAllocator.request
      (MemberService.add c data state uuid) r c.memberIdGen none).tied id t →
        c.tied id t ∧ t ≠ c.transportIdGen := by
    rintro t ⟨T, hT, h⟩
    rw [hspec.producerOf, if_neg hne] at h
    rw [hspec.heap] at hT
    split at hT
    · cases hT
      rcases h with h | ⟨p, -, h⟩
      · exact absurd h.symm hne
      · cases h
    · rename_i ht
      exact ⟨⟨T, hT, h⟩, ht⟩
  constructor
  · intro t ht h
    obtain ⟨h, hne⟩ := htied t h
    exact hI.transports t (((hspec.transports t).mp ht).resolve_left hne) h
  · intro r' hr R' hR' t ht h
    obtain ⟨hold, hne⟩ := htied t h
    have hR' : (c.routerHeap.modify r fun R =>
        { R with
          transports := JsSet.add R.transports c.transportIdGen }).get? r'
        = some R' := hR'
    rcases JsMap.get?_modify_cases hR' with ⟨rfl, R, hR, rfl⟩ | ⟨-, hR'⟩
    · exact hI.routers r' hr R hR t
        ((JsSet.mem_keys_add.mp ht).resolve_left hne) hold
    · exact hI.routers r' hr R' hR' t ht hold
  · intro m hm M hM
    rw [hspec.memberHeap] at hM
    split at hM
    · cases hM
      rfl
    · rename_i hm'
      refine hI.members m ?_ M hM
      exact (JsSet.mem_keys_add.mp hm).resolve_left hm'

end Kept

section Effects

variable [Callback κ] {id : MemberId} {base c c' : Coord κ} {a : Action κ}
  {tr : List (Out κ)}

/-- **No effect brings a trace back.** -/
theorem noTrace_effect (hg : removalsTraceless tr base a)
    (hwf : CoordWF base) (hbase : NoTrace id base)
    (hid : base.spaceOf id ≠ none) (hm : id ∉ base.members.keys)
    (h : Effect base a c c') (hI : NoTrace id c) : NoTrace id c' := by
  -- the continuation that runs has been taken off
  have hsub : ∀ i, NoTrace id (base.without i) := fun i =>
    hbase.frame (.of_eq rfl rfl rfl (fun _ h => h) (fun _ h => h)
      fun _ h => h)
  -- what could tie a transport to the member is a mesh or an ack
  cases h with
  | media h =>
    cases h with
    | emit | answer | transportNack | publishUpdate =>
        refine hI.frame ?_
        exact .of_eq rfl rfl rfl (fun _ h => h) (fun _ h => h) fun _ h => h
    | dropTransport =>
        refine hI.frame ?_
        exact .of_eq rfl rfl rfl (fun _ h => (JsMap.mem_keys_delete.mp h).2)
          (fun _ h => h) fun _ h => h
    | mesh ha ht =>
        subst ha
        -- the guard excludes the mesh that would name the member
        exact hbase.mesh hwf hm ht (hg _ ht)
    | transportAck ha h => exact hbase.transportAck hwf _ h
    | @updateAck n r resp ha h =>
        obtain ⟨heap, l, heq, -, hheap⟩ := onUpdateAck_eq base n r resp
        rw [heq]
        refine hbase.frame { TraceFrame.refl base with
          transportHeap := fun t => ?_ }
        rcases hheap with rfl | rfl
        · rfl
        · show ((base.transportHeap.modify _ _).get? t).map _ = _
          rw [JsMap.get?_modify]
          split
          · rename_i heq
            rw [heq, Option.map_map]
            rfl
          · rfl
    | @updateNack n r message =>
        obtain ⟨l, heq, -⟩ := onUpdateNack_eq base n r message
        rw [heq]
        exact hbase.frame { TraceFrame.refl base with }
  | createSpace | subscribe | unsubscribe | workers | resolve | routerNack
    | take | run | finish | finishNow =>
      refine hI.frame ?_
      exact .of_eq rfl rfl rfl (fun _ h => h) (fun _ h => h) fun _ h => h
  -- a new router has no transport
  | @request space w workerId strategy =>
      refine hI.frame { TraceFrame.refl base with
        onRouter := fun r hr R' hR' t ht => ?_ }
      have hR' : (base.routerHeap.set base.routerIdGen _).get? r
        = some R' := hR'
      rw [JsMap.get?_set] at hR'
      split at hR'
      · cases hR'
        cases ht
      · rename_i hne
        exact ⟨(JsSet.mem_keys_add.mp hr).resolve_left hne, R', hR', ht⟩
  -- an ack changes the capabilities only
  | @routerAck r w caps ha hw =>
      rw [onRouterAck_eq hwf.router caps hw]
      refine hI.frame { TraceFrame.refl base with
        onRouter := fun r' hr R' hR' t ht => ⟨hr, ?_⟩ }
      have hR' : (base.routerHeap.modify r fun R =>
        { R with rtpCapabilities := some caps }).get? r' = some R' := hR'
      rcases JsMap.get?_modify_cases hR' with ⟨rfl, R, hR, rfl⟩ | ⟨-, hR'⟩
      · exact ⟨R, hR, ht⟩
      · exact ⟨R', hR', ht⟩
  | @beginEnd _ uuid space r =>
      refine (hI.frame (remove_traceFrame c r)).frame ?_
      exact .of_eq rfl rfl rfl (fun _ h => h) (fun _ h => h) fun _ h => h
  -- the member that joins has another id
  | @join i uuid data state cb r =>
      exact (hsub i).join
        ⟨(without_routerFrame base i).wf hwf.router, { hwf.member with },
          hwf.transport.without i⟩
        hid uuid data state r
  | removeMember =>
      refine hI.frame ?_
      exact .of_eq rfl rfl rfl (fun _ h => h) (fun _ h => h)
        fun _ h => (JsMap.mem_keys_delete.mp h).2

end Effects

/-! ## §4. A removal that reaches everything. -/

section Removal

variable {c : Coord κ} {id : MemberId}

/-- By induction on the loop: it drops every value it comes by, and runs to
its end unless one is `undefined`. -/
theorem removeConsumers_traces : ∀ (l : List (Option TransportId))
    (c : Coord κ), none ∉ l →
      (MemberService.removeConsumers c l).2 = true ∧
      TraceFrame c (MemberService.removeConsumers c l).1 ∧
      ∀ t ∈ (MemberService.removeConsumers c l).1.transports.keys,
        some t ∉ l
  | [], c, _ => ⟨rfl, .refl c, fun _ _ h => by cases h⟩
  | none :: _, _, h => absurd List.mem_cons_self h
  | some t :: rest, c, h => by
      obtain ⟨hdone, hf, hout⟩ := removeConsumers_traces rest
        (TransportAllocator.remove c t)
        fun h' => h (List.mem_cons_of_mem _ h')
      have hdrop : TraceFrame c (TransportAllocator.remove c t) :=
        .of_eq rfl rfl rfl (fun _ h => (JsMap.mem_keys_delete.mp h).2)
          (fun _ h => h) fun _ h => h
      refine ⟨hdone, hdrop.trans hf, fun t' ht' hmem => ?_⟩
      rcases List.mem_cons.mp hmem with heq | hmem
      · cases heq
        exact (JsMap.mem_keys_delete.mp (hf.transports t ht')).1 rfl
      · exact hout t' ht' hmem

/-- Removing transports from the table leaves the routers alone. -/
theorem removeConsumers_routerHeap : ∀ (l : List (Option TransportId))
    (c : Coord κ),
    (MemberService.removeConsumers c l).1.routerHeap = c.routerHeap
  | [], _ => rfl
  | some t :: rest, c =>
      removeConsumers_routerHeap rest (TransportAllocator.remove c t)
  | none :: _, _ => rfl

/-- A router that is removed is not in the table. -/
theorem remove_routers {r r' : RouterId} {R : Router}
    (hR : c.routerHeap.get? r' = some R)
    (h : r' ∈ (RouterAllocator.remove c r).routers.keys) : r' ≠ r := by
  rintro rfl
  unfold RouterAllocator.remove at h
  split at h
  · rw [hR] at h
    exact (JsMap.mem_keys_delete.mp h).1 rfl
  · rename_i hn
    exact hn (JsMap.has_eq_true_iff_mem.mpr h)

/-- When nobody is left, the router of the space goes with its
transports. -/
theorem notifyMemberLeft_traces (c : Coord κ) (uuid : Uuid) :
    TraceFrame c (SpaceService.notifyMemberLeft c uuid) ∧
    ∀ space r R, c.spaces.get? uuid = some space →
      c.deserted uuid space → space.primaryRouter = some r →
      c.routerHeap.get? r = some R →
      r ∉ (SpaceService.notifyMemberLeft c uuid).routers.keys ∧
      (r ∈ c.routers.keys → ∀ t ∈ R.transports.keys,
        t ∉ (SpaceService.notifyMemberLeft c uuid).transports.keys) := by
  unfold SpaceService.notifyMemberLeft
  cases hs : c.spaces.get? uuid with
  | none => exact ⟨.refl c, fun _ _ _ h => by cases h⟩
  | some space =>
  dsimp only [SpaceLifecyclePolicy.onMemberLeft,
    SpaceLifecyclePolicy.shouldEnd]
  split
  · rename_i hd
    simp only [SpaceService.transitionPromise,
      SpaceService.applyTransition, hd.1, reduceCtorEq, if_false,
      and_self, if_true]
    split
    · rename_i r hr
      have hdefer : TraceFrame (RouterAllocator.remove c r)
          ((RouterAllocator.remove c r).defer
            (.routerRemoved uuid .memberLeft)) :=
        .of_eq rfl rfl rfl (fun _ h => h) (fun _ h => h) fun _ h => h
      refine ⟨(remove_traceFrame c r).trans hdefer,
        fun _ r' R' hs' _ hr' hR' => ?_⟩
      cases hs'
      cases hr.symm.trans hr'
      refine ⟨fun h => remove_routers hR' h rfl, fun hreg t ht h => ?_⟩
      exact (remove_transports.mp h).2 ⟨hreg, R', hR', ht⟩
    · rename_i hr
      refine ⟨.of_eq rfl rfl rfl (fun _ h => h) (fun _ h => h) fun _ h => h,
        fun _ r R hs' _ hr' => ?_⟩
      cases hs'
      rw [hr] at hr'
      cases hr'
  · rename_i hd
    refine ⟨.refl c, fun _ r R hs' he => ?_⟩
    cases hs'
    exact absurd ⟨he.running, he.subscribers, he.members⟩ hd

/-- A removal that leaves nothing drops every transport of the member. -/
theorem leavesNothing_dropped (hl : c.leavesNothing id) {M : Member}
    (hM : c.memberHeap.get? id = some M) {t : TransportId}
    (ht : t ∈ c.transports.keys) (htied : c.tied id t) :
    M.producer = some t ∨
      some t ∈ M.memberToConsumerMap.entries.map Prod.snd ∨
      ∃ r R, c.endedRouter id = some r ∧ r ∈ c.routers.keys ∧
        c.routerHeap.get? r = some R ∧ t ∈ R.transports.keys := by
  rcases hl.transports t ht htied with ⟨M', hM', h⟩ | ⟨r, hr, hreg, R, hR, h⟩
  · cases hM.symm.trans hM'
    exact h.imp_right .inl
  · exact .inr (.inr ⟨r, R, hr, hreg, hR, h⟩)

end Removal

section Accepted

variable [Callback κ] {c : Coord κ} {id : MemberId} {cb : κ}

theorem ackSync_traceFrame (c : Coord κ) (cb : κ) (resp : Response) :
    TraceFrame c (c.ackSync cb resp) := by
  unfold Coord.ackSync
  split <;>
    exact .of_eq rfl rfl rfl (fun _ h => h) (fun _ h => h) fun _ h => h

omit [Callback κ] in
/-- From `c` to `d` the loop has dropped what the record of `id` refers to;
what follows drops the router. -/
theorem noTrace_of_dropped {d : Coord κ} {M : Member}
    (hl : c.leavesNothing id) (hM : c.memberHeap.get? id = some M)
    (hf : TraceFrame c d) (hm : MediaFrame c d)
    (hprod : ∀ t ∈ d.transports.keys, M.producer ≠ some t)
    (hmap : ∀ t ∈ d.transports.keys,
      some t ∉ M.memberToConsumerMap.entries.map Prod.snd)
    (hrouter : d.routerHeap = c.routerHeap) :
    NoTrace id (SpaceService.notifyMemberLeft
      (MemberService.remove d id M) M.owningSpace) := by
  have hremove : TraceFrame d (MemberService.remove d id M) :=
    .of_eq rfl rfl rfl (fun _ h => h) (fun _ h => h)
      fun _ h => (JsMap.mem_keys_delete.mp h).2
  obtain ⟨hnotify, hended⟩ := notifyMemberLeft_traces
    (MemberService.remove d id M) M.owningSpace
  -- the space the removal ends is the one the handler finds deserted
  have hdeserted : ∀ r, c.endedRouter id = some r → ∃ space,
      (MemberService.remove d id M).spaces.get? M.owningSpace = some space ∧
      (MemberService.remove d id M).deserted M.owningSpace space ∧
      space.primaryRouter = some r := by
    intro r hr
    rw [Coord.endedRouter, hM, Option.bind_some] at hr
    obtain ⟨space, hs, hr⟩ := Option.bind_eq_some_iff.mp hr
    split at hr
    · rename_i hd
      refine ⟨{ space with members := space.members.delete id }, ?_,
        ⟨hd.1, ?_, hd.2.2⟩, hr⟩
      · show (d.spaces.modify _ _).get? _ = _
        rw [JsMap.get?_modify_self, hm.spaces, hs]
        rfl
      · rw [SpaceService.subscriberCount, ← hm.spaceToSubscribedMap] at hd
        exact hd.2.1
    · cases hr
  have hall := (hf.trans hremove).trans hnotify
  have hreg : ∀ r, r ∈ (MemberService.remove d id M).routers.keys ↔
      r ∈ c.routers.keys := by
    intro r
    show r ∈ d.routers.keys ↔ _
    rw [hm.routers]
  constructor
  · intro t ht htied
    have hold := hnotify.transports t ht
    rcases leavesNothing_dropped hl hM (hall.transports t ht)
        (hall.tied.mp htied) with h | h | ⟨r, R, hr, hrc, hR, htR⟩
    · exact hprod t hold h
    · exact hmap t hold h
    · obtain ⟨space, hs, hd, hp⟩ := hdeserted r hr
      exact (hended space r R hs hd hp (hrouter ▸ hR)).2
        ((hreg r).mpr hrc) t htR ht
  · intro r hr R' hR' t ht htied
    obtain ⟨hrc, R, hR, htR⟩ := hall.onRouter r hr R' hR' t ht
    have hr' := hl.routers r hrc R hR t htR (hall.tied.mp htied)
    obtain ⟨space, hs, hd, hp⟩ := hdeserted r hr'
    exact (hended space r R hs hd hp (hrouter ▸ hR)).1 hr
  · intro m hmem M' hM'
    have hmem' := hnotify.members m hmem
    obtain ⟨hne, hmem'⟩ := JsMap.mem_keys_delete.mp hmem'
    refine hl.members m (hf.members m hmem') hne M' ?_
    rw [← hall.memberHeap]
    exact hM'

/-- `onRemoveMemberRequest` from the loop over the consumers on. -/
theorem removeRest_noTrace {d : Coord κ} {M : Member}
    (hl : c.leavesNothing id) (hM : c.memberHeap.get? id = some M)
    (hdef : none ∉ M.memberToConsumerMap.entries.map Prod.snd)
    (hf : TraceFrame c d) (hm : MediaFrame c d)
    (hprod : ∀ t ∈ d.transports.keys, M.producer ≠ some t)
    (hrouter : d.routerHeap = c.routerHeap) :
    NoTrace id
      (match MemberService.removeConsumers d
          (M.memberToConsumerMap.entries.map Prod.snd) with
        | (c, false) => c.emit
            (.thrown "Cannot read properties of undefined (reading 'id')")
        | (c, true) =>
            let c := MemberService.remove c id M
            let c := SpaceService.notifyMemberLeft c M.owningSpace
            c.ackSync cb .void) := by
  obtain ⟨hdone, hf', hmap⟩ := removeConsumers_traces _ d hdef
  have hm' := MemberService.removeConsumers_frame
    (M.memberToConsumerMap.entries.map Prod.snd) d
  have hrouter' := removeConsumers_routerHeap
    (M.memberToConsumerMap.entries.map Prod.snd) d
  generalize MemberService.removeConsumers d
    (M.memberToConsumerMap.entries.map Prod.snd) = q
    at hdone hf' hmap hm' hrouter' ⊢
  obtain ⟨e, done⟩ := q
  cases hdone
  have hleft := noTrace_of_dropped hl hM (hf.trans hf') (hm.trans hm')
    (fun t ht => hprod t (hf'.transports t ht)) hmap
    (hrouter'.trans hrouter)
  exact hleft.frame (ackSync_traceFrame _ cb .void)

/-- **An accepted removal that reaches everything leaves no trace.** -/
theorem removed_noTrace (hl : c.leavesNothing id)
    (hm : id ∈ c.members.keys) {M : Member}
    (hM : c.memberHeap.get? id = some M)
    (hi : ¬ c.ignores (.removeMemberRequest id cb)) :
    NoTrace id (MemberService.onRemoveMemberRequest c id cb) := by
  have hdef : none ∉ M.memberToConsumerMap.entries.map Prod.snd :=
    fun h => hi ⟨hm, M, hM, h⟩
  unfold MemberService.onRemoveMemberRequest
  rw [if_pos (JsMap.has_eq_true_iff_mem.mpr hm), hM]
  dsimp only
  -- the producer goes first
  cases hp : M.producer with
  | none =>
      refine removeRest_noTrace hl hM hdef (.refl c) (.refl c)
        (fun t _ h => ?_) rfl
      rw [hp] at h
      cases h
  | some p =>
      refine removeRest_noTrace hl hM hdef ?_
        (TransportAllocator.remove_frame c p) (fun t ht h => ?_) rfl
      · exact .of_eq rfl rfl rfl (fun _ h => (JsMap.mem_keys_delete.mp h).2)
          (fun _ h => h) fun _ h => h
      · rw [hp] at h
        cases h
        exact (JsMap.mem_keys_delete.mp ht).1 rfl

omit [Callback κ] in
/-- The loop stops at an id that is missing. -/
theorem removeConsumers_undefined : ∀ {l : List (Option TransportId)}
    {c : Coord κ}, none ∈ l → (MemberService.removeConsumers c l).2 = false
  | some t :: rest, c, h => by
      refine removeConsumers_undefined (l := rest)
        (c := TransportAllocator.remove c t) ?_
      exact (List.mem_cons.mp h).resolve_left (by simp)
  | none :: _, _, _ => rfl

/-- A removal that throws removes nobody. -/
theorem ignored_members
    (hi : c.ignores (.removeMemberRequest id cb)) :
    (MemberService.onRemoveMemberRequest c id cb).members = c.members := by
  obtain ⟨hm, M, hM, hundef⟩ := hi
  unfold MemberService.onRemoveMemberRequest
  rw [if_pos (JsMap.has_eq_true_iff_mem.mpr hm), hM]
  dsimp only
  have key : ∀ d : Coord κ, d.members = c.members →
      (match MemberService.removeConsumers d
          (M.memberToConsumerMap.entries.map Prod.snd) with
        | (c, false) => c.emit
            (.thrown "Cannot read properties of undefined (reading 'id')")
        | (c, true) =>
            let c := MemberService.remove c id M
            let c := SpaceService.notifyMemberLeft c M.owningSpace
            c.ackSync cb .void).members = c.members := by
    intro d hd
    have hfalse := removeConsumers_undefined (c := d) hundef
    have hmem := (removeConsumers_members
      (M.memberToConsumerMap.entries.map Prod.snd) d).1
    generalize MemberService.removeConsumers d
      (M.memberToConsumerMap.entries.map Prod.snd) = q at hfalse hmem ⊢
    obtain ⟨e, done⟩ := q
    cases hfalse
    exact hmem.trans hd
  cases M.producer with
  | none => exact key c rfl
  | some p => exact key (TransportAllocator.remove c p) rfl

/-- Whoever is gone after a stretch was gone before it, or is the member an
accepted removal removed. -/
theorem act_gone {c' : Coord κ} {a : Action κ} (hwf : CoordWF c)
    (h : c.act a = some c') (hg : c'.gone id) :
    c.gone id ∨ id ∈ c.members.keys ∧ ∃ cb,
      a = .removeMemberRequest id cb ∧ ¬ c.ignores a := by
  have hframe : ∀ {d : Coord κ}, MemberFrame d c' → d.gone id := by
    intro d hf
    refine ⟨?_, ?_⟩
    · rw [← hf.spaceOf]
      exact hg.1
    · rw [← hf.members]
      exact hg.2
  cases act_stretch hwf.router hwf.member hwf.transport h with
  | silent _ _ h | served _ _ h | servedTwice _ _ _ h | refused _ _ h
    | ignored _ _ h | asked _ _ _ h | nacked h | dropped _ h
    | unsubscribed _ h | caught _ h | forwarded _ _ _ _ _ h
    | unsubscribing _ h | subscribed _ h | updateNacked _ h =>
      have hd := hframe h.frame.members
      exact .inl hd
  | updated _ h =>
      rcases h with ⟨_, _, -, h⟩ | ⟨-, _, _, h⟩
      · have hd := hframe h.frame.members
        exact .inl hd
      · have hd := hframe h.frame.members
        exact .inl hd
  | @added _ uuid data state _ _ _ h =>
      obtain ⟨hs, hm⟩ := hframe h.frame.members
      rw [spaceOf_add] at hs
      have hm := fun h' => hm (JsSet.mem_keys_add.mpr h')
      refine .inl ⟨?_, fun h' => hm (.inr h')⟩
      rwa [if_neg fun h' => hm (.inl h')] at hs
  | @removed id' cb _ _ hmem _ h' =>
      obtain ⟨hs, hm⟩ := hframe h'.frame.members
      have hm := fun h' => hm (JsMap.mem_keys_delete.mpr h')
      by_cases heq : id = id'
      · subst heq
        refine .inr ⟨hmem, cb, rfl, fun hi => ?_⟩
        -- a removal that throws leaves the member where it is
        have hkept := ignored_members hi
        cases h
        rw [Coord.gone, hkept] at hg
        exact hg.2 hmem
      · exact .inl ⟨hs, fun h' => hm ⟨heq, h'⟩⟩

/-- A guarded stretch keeps the tables clear of everyone who is gone. -/
theorem noTrace_act {c' : Coord κ} {a : Action κ} (tr : List (Out κ))
    (hwf : CoordWF c) (hg : removalsTraceless tr c a)
    (hI : ∀ id, c.gone id → NoTrace id c) (h : c.act a = some c') :
    ∀ id, c'.gone id → NoTrace id c' := by
  intro id hid
  rcases act_gone hwf h hid with hold | ⟨hm, cb, rfl, hi⟩
  · exact act_invariant (NoTrace id) (hI id hold) h fun d d' he =>
      noTrace_effect hg hwf (hI id hold) hold.1 hold.2 he
  · obtain ⟨uuid, hu⟩ := Option.ne_none_iff_exists'.mp
      (hwf.member.stored id hm)
    obtain ⟨M, hM, -⟩ := Option.map_eq_some_iff.mp hu
    cases h
    exact removed_noTrace (hg hm hi) hm hM hi

end Accepted

/-! ## §5. Every guarded run. -/

section Runs

variable [Callback κ]

/-- **A removed member leaves no trace**, in every run whose removals reach
everything. -/
theorem noTrace_of_removed {past : List (Coord κ)} {c : Coord κ}
    {tr : List (Out κ)} (h : (machine κ).Run removalsTraceless past c tr) :
    ∀ id, c.gone id → NoTrace id c := by
  induction h with
  | init h =>
    cases h
    rintro id ⟨hs, -⟩
    exact absurd rfl hs
  | @step past s s' tr obs a hr hg hs ih =>
    obtain ⟨c', hact, hp⟩ := Option.map_eq_some_iff.mp hs
    obtain ⟨rfl, -⟩ := Prod.mk.inj hp
    have hwf := coordWF_reachable hr.reachable
    refine noTrace_act (c := { s with out := [] }) tr
      ⟨{ hwf.router with }, { hwf.member with }, { hwf.transport with }⟩
      ?_ (fun id hid => ?_) hact
    · cases a with
      | removeMemberRequest id cb => exact fun hm hi => { hg hm hi with }
      | _ => exact hg
    · exact (ih id hid).frame { TraceFrame.refl s with }

end Runs

/-! ## §6. A removal that does not. -/

section Left

/-- Two members mesh, every request is answered, and the first is
removed. -/
def leaveRoom : List (Action Unit) :=
  openRoom ++ joinRoom "ada" ++ [.transportAck 0 "options", .resume 0] ++
    joinRoom "bob" ++ [.transportAck 1 "options", .resume 0,
      .transportAck 2 "options", .transportAck 3 "options",
      .removeMemberRequest 0 ()]

/-- Nothing is under way, and there is a trace of the removed member in
each of the three tables. -/
theorem removal_leaves_traces : ∃ past c tr,
    (machine Unit).Run anyStep past c tr ∧ c.quiescent ∧ c.gone 0 ∧
      (∃ t ∈ c.transports.keys, c.tied 0 t) ∧
      (∃ r ∈ c.routers.keys, ∃ R ∈ c.routerHeap.get? r,
        ∃ t ∈ R.transports.keys, c.tied 0 t) ∧
      (∃ m ∈ c.members.keys, ∃ M ∈ c.memberHeap.get? m,
        M.memberToConsumerMap.has 0 = true) ∧ ¬ NoTrace 0 c := by
  obtain ⟨past, c, tr, hr, hp⟩ := Machine.Run.exists_of_exec
    (M := machine Unit) (G := anyStep) (l := leaveRoom)
    (p := fun r => decide (r.2.1.quiescent ∧ r.2.1.gone 0 ∧
      (∃ t ∈ r.2.1.transports.keys, r.2.1.tied 0 t) ∧
      (∃ r' ∈ r.2.1.routers.keys, ∃ R ∈ r.2.1.routerHeap.get? r',
        ∃ t ∈ R.transports.keys, r.2.1.tied 0 t) ∧
      ∃ m ∈ r.2.1.members.keys, ∃ M ∈ r.2.1.memberHeap.get? m,
        M.memberToConsumerMap.has 0 = true)) rfl (by decide)
  obtain ⟨hq, hgone, ht, hrouter, hmember⟩ := of_decide_eq_true hp
  refine ⟨past, c, tr, hr, hq, hgone, ht, hrouter, hmember, fun hn => ?_⟩
  obtain ⟨t, hmem, htied⟩ := ht
  exact hn.transports t hmem htied

/-- A member that is alone when it leaves, after its server has
unsubscribed, takes the router with it. -/
theorem noTrace_of_removed_alone : ∃ past c tr,
    (machine Unit).Run removalsTraceless past c tr ∧ c.gone 0 ∧
      NoTrace 0 c := by
  obtain ⟨past, c, tr, hr, hp⟩ := Machine.Run.exists_of_exec
    (M := machine Unit) (G := removalsTraceless)
    (l := openRoom ++ joinRoom "ada" ++ [.transportAck 0 "options", .resume 0,
      .unsubscribeFromSpaceRequest 1 "room" (), .resume 0,
      .removeMemberRequest 0 ()])
    (p := fun r => decide (r.2.1.gone 0)) rfl (by decide)
  have hgone : c.gone 0 := of_decide_eq_true hp
  exact ⟨past, c, tr, hr, hgone, noTrace_of_removed hr 0 hgone⟩

end Left

end Twolk.Coordinator
