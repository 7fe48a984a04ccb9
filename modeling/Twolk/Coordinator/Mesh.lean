/-
  Twolk.Coordinator.Mesh
  ──────────────────────
  **EVERY MEMBER CONSUMES FROM EVERY OTHER.**

  A new member starts its edges when its own producer transport is
  allocated, with whoever is present by then.  Take two members: the one
  whose producer is allocated last sees the other, because both were added
  before their producers were requested.  As an invariant: for every ordered
  pair, one of the two is still `unmeshed`, or the edge has been requested,
  or it is in the consumer map.  When nothing is under way, only the last is
  left.
-/
import Twolk.Coordinator.Transports

namespace Twolk.Coordinator

open Twolk.Lib

variable {κ : Type}

/-! ## §1. The state of an edge. -/

/-- The continuation that starts the edges of `m` has not run. -/
def Coord.unmeshed (c : Coord κ) (m : MemberId) : Prop :=
  ∃ p, c.producerOf m = some p ∧
    (p ∈ c.transportRequests.keys ∨ .producerAllocated p ∈ c.tasks)

/-- A transport of `a` from the producer of `b` is requested. -/
def Coord.pendingEdge (c : Coord κ) (a b : MemberId) : Prop :=
  ∃ t T q, t ∈ c.transportRequests.keys ∧
    c.transportHeap.get? t = some T ∧ T.owningMember = a ∧
    c.producerOf b = some q ∧ T.consumesFromTransportId = some q

/-- `a.memberToConsumerMap` has an entry for `b`: an allocated transport of
`a` that consumes from the producer of `b`. -/
def Coord.consumes (c : Coord κ) (a b : MemberId) : Prop :=
  ∃ M t T q, c.memberHeap.get? a = some M ∧
    M.memberToConsumerMap.get? b = some (some t) ∧
    c.transportHeap.get? t = some T ∧ T.status ≠ .unallocated ∧
    T.owningMember = a ∧ c.producerOf b = some q ∧
    T.consumesFromTransportId = some q

/-- **The full mesh** of space `uuid`. -/
def FullMesh (uuid : Uuid) (c : Coord κ) : Prop :=
  ∀ a ∈ c.membersOf uuid, ∀ b ∈ c.membersOf uuid, a ≠ b → c.consumes a b

/-- Every edge is under way or there. -/
def Coord.edgeState (c : Coord κ) (a b : MemberId) : Prop :=
  c.unmeshed a ∨ c.unmeshed b ∨ c.pendingEdge a b ∨ c.consumes a b

/-- The step neither removes a member of `uuid` nor answers one of its
transport requests with a nack. -/
def onlyGrows (uuid : Uuid) : Guard (Coord κ) (Action κ) (Out κ)
  | _, c, .removeMemberRequest id _ => id ∉ c.membersOf uuid
  | _, c, .transportNack id _ => ∀ T ∈ c.transportHeap.get? id,
      c.spaceOf T.owningMember ≠ some uuid
  | _, _, _ => True

instance (uuid : Uuid) (tr : List (Out κ)) (c : Coord κ) :
    ∀ a, Decidable (onlyGrows uuid tr c a)
  | .removeMemberRequest id _ =>
      inferInstanceAs (Decidable (id ∉ c.membersOf uuid))
  | .transportNack id _ => inferInstanceAs (Decidable
      (∀ T ∈ c.transportHeap.get? id,
        c.spaceOf T.owningMember ≠ some uuid))
  | .createSpaceRequest .. | .readSpaceRequest .. |
    .subscribeToSpaceRequest .. | .unsubscribeFromSpaceRequest .. |
    .addMemberRequest .. | .spaceUpdateStream .. | .tryJoinSpaceRequest .. |
    .signalingServerConnected .. | .signalingServerDisconnected _ |
    .mediaWorkerConnected _ | .mediaWorkerDisconnected _ | .routerAck .. |
    .routerNack .. | .transportAck .. | .updateAck .. | .updateNack .. |
    .resume _ => .isTrue trivial

/-! ## §2. Steps that keep the edges. -/

/-- From `c` to `c'` no record is lost and nothing under way is dropped. -/
structure EdgeMono (c c' : Coord κ) : Prop where
  producerOf : ∀ m q, c.producerOf m = some q → c'.producerOf m = some q
  requests : ∀ t ∈ c.transportRequests.keys,
    t ∈ c'.transportRequests.keys
  produced : ∀ p, .producerAllocated p ∈ c.tasks →
    .producerAllocated p ∈ c'.tasks
  heap : ∀ t T, c.transportHeap.get? t = some T → ∃ T',
    c'.transportHeap.get? t = some T' ∧
      T'.owningMember = T.owningMember ∧
      T'.consumesFromTransportId = T.consumesFromTransportId ∧
      (T.status ≠ .unallocated → T'.status ≠ .unallocated)
  map : ∀ m M b t, c.memberHeap.get? m = some M →
    M.memberToConsumerMap.get? b = some (some t) → ∃ M',
      c'.memberHeap.get? m = some M' ∧
        M'.memberToConsumerMap.get? b = some (some t)

namespace EdgeMono

variable {c c' c'' : Coord κ} {a b : MemberId}

theorem refl (c : Coord κ) : EdgeMono c c where
  producerOf _ _ h := h
  requests _ h := h
  produced _ h := h
  heap _ T h := ⟨T, h, rfl, rfl, fun h => h⟩
  map _ M _ _ h h' := ⟨M, h, h'⟩

theorem trans (h : EdgeMono c c') (h' : EdgeMono c' c'') :
    EdgeMono c c'' where
  producerOf m q hq := h'.producerOf m q (h.producerOf m q hq)
  requests t ht := h'.requests t (h.requests t ht)
  produced p hp := h'.produced p (h.produced p hp)
  heap t T hT := by
    obtain ⟨T', hT', ho, hs, hal⟩ := h.heap t T hT
    obtain ⟨T'', hT'', ho', hs', hal'⟩ := h'.heap t T' hT'
    exact ⟨T'', hT'', ho'.trans ho, hs'.trans hs, fun h => hal' (hal h)⟩
  map m M b t hM hb := by
    obtain ⟨M', hM', hb'⟩ := h.map m M b t hM hb
    exact h'.map m M' b t hM' hb'

/-- A mesh that is still to come is not forgotten. -/
theorem unmeshed (h : EdgeMono c c') (hu : c.unmeshed a) :
    c'.unmeshed a := by
  obtain ⟨p, hp, hw⟩ := hu
  exact ⟨p, h.producerOf a p hp, hw.imp (h.requests p) (h.produced p)⟩

/-- An edge under way stays under way. -/
theorem pendingEdge (h : EdgeMono c c') (he : c.pendingEdge a b) :
    c'.pendingEdge a b := by
  obtain ⟨t, T, q, ht, hT, ho, hq, hs⟩ := he
  obtain ⟨T', hT', ho', hs', -⟩ := h.heap t T hT
  exact ⟨t, T', q, h.requests t ht, hT', ho'.trans ho, h.producerOf b q hq,
    hs'.trans hs⟩

theorem consumes (h : EdgeMono c c') (he : c.consumes a b) :
    c'.consumes a b := by
  obtain ⟨M, t, T, q, hM, hb, hT, hst, ho, hq, hs⟩ := he
  obtain ⟨T', hT', ho', hs', hal⟩ := h.heap t T hT
  obtain ⟨M', hM', hb'⟩ := h.map a M b t hM hb
  exact ⟨M', t, T', q, hM', hb', hT', hal hst, ho'.trans ho,
    h.producerOf b q hq, hs'.trans hs⟩

/-- Nor is what has become of an edge undone. -/
theorem edgeState (h : EdgeMono c c') (he : c.edgeState a b) :
    c'.edgeState a b :=
  he.imp h.unmeshed fun he => he.imp h.unmeshed fun he =>
    he.imp h.pendingEdge h.consumes

/-- A stretch that leaves members and transports alone. -/
theorem of_eq (memberHeap : c'.memberHeap = c.memberHeap)
    (transportHeap : c'.transportHeap = c.transportHeap)
    (requests : c'.transportRequests = c.transportRequests)
    (produced : ∀ p, .producerAllocated p ∈ c.tasks →
      .producerAllocated p ∈ c'.tasks) : EdgeMono c c' where
  producerOf m q h := by rwa [Coord.producerOf, memberHeap]
  requests t h := requests ▸ h
  produced := produced
  heap t T h := ⟨T, transportHeap ▸ h, rfl, rfl, fun h => h⟩
  map m M b t h hb := ⟨M, memberHeap ▸ h, hb⟩

end EdgeMono

/-- Requesting a transport for an existing member keeps the edges. -/
theorem TransportWF.request_mono {c : Coord κ} (hI : TransportWF c)
    (router : RouterId) (member : MemberId) (source : TransportId) :
    EdgeMono c (TransportAllocator.request c router member (some source)) where
  producerOf _ _ h := h
  requests _ h := JsSet.mem_keys_add.mpr (.inr h)
  produced _ h := h
  heap _ T h := ⟨T, hI.request_old _ h, rfl, rfl, fun h => h⟩
  map _ M _ _ h hb := ⟨M, h, hb⟩

/-- Asking for a list of edges undoes none. -/
theorem requestAll_mono {router : RouterId} :
    ∀ (edges : List (MemberId × TransportId)) {c : Coord κ},
      TransportWF c → (∀ e ∈ edges, EdgeOK c router e) →
      EdgeMono c (requestAll router c edges)
  | [], c, _, _ => .refl c
  | e :: edges, c, hI, he => by
      refine (hI.request_mono router e.1 e.2).trans
        (requestAll_mono edges (hI.requestConsumer (he e List.mem_cons_self))
          fun e' h => (he e' (List.mem_cons_of_mem _ h)).request hI _ _)

/-- Every requested edge is under way. -/
theorem requestAll_pending {router : RouterId} :
    ∀ (edges : List (MemberId × TransportId)) {c : Coord κ},
      TransportWF c → (∀ e ∈ edges, EdgeOK c router e) →
      ∀ e ∈ edges, ∀ b, c.producerOf b = some e.2 →
        (requestAll router c edges).pendingEdge e.1 b
  | [], _, _, _ => fun _ h => by cases h
  | e :: edges, c, hI, he => by
      have hI' := hI.requestConsumer (he e List.mem_cons_self)
      have he' : ∀ e' ∈ edges, EdgeOK (TransportAllocator.request c router
          e.1 (some e.2)) router e' := fun e' h =>
        (he e' (List.mem_cons_of_mem _ h)).request hI _ _
      intro e' hmem b hb
      rcases List.mem_cons.mp hmem with rfl | hmem
      · refine (requestAll_mono edges hI' he').pendingEdge ?_
        exact ⟨c.transportIdGen, requestedTransport router e'.1 (some e'.2),
          e'.2, JsSet.mem_keys_add.mpr (.inl rfl),
          by rw [transportHeap_request, if_pos rfl], rfl, hb, rfl⟩
      · exact requestAll_pending edges hI' he' e' hmem b hb

/-- What a list of requests does to the tables. -/
theorem requestAll_tables (router : RouterId) :
    ∀ (edges : List (MemberId × TransportId)) (c : Coord κ),
      (requestAll router c edges).memberHeap = c.memberHeap ∧
      (requestAll router c edges).spaces = c.spaces ∧
      (∀ t ∈ c.transports.keys,
        t ∈ (requestAll router c edges).transports.keys) ∧
      ∀ t T, (requestAll router c edges).transportHeap.get? t = some T →
        c.transportHeap.get? t = some T ∨
          t ∈ (requestAll router c edges).transports.keys
  | [], c => ⟨rfl, rfl, fun _ h => h, fun _ _ h => .inl h⟩
  | e :: edges, c => by
      obtain ⟨hm, hs, ht, hT⟩ := requestAll_tables router edges
        (TransportAllocator.request c router e.1 (some e.2))
      refine ⟨hm, hs, fun t h => ht t (JsSet.mem_keys_add.mpr (.inr h)),
        fun t T h => ?_⟩
      rcases hT t T h with h | h
      · rw [transportHeap_request] at h
        split at h
        · rename_i heq
          exact .inr (ht t (JsSet.mem_keys_add.mpr (.inl heq)))
        · exact .inl h
      · exact .inr h

/-! ## §3. The invariant. -/

/-- While a space only grows: its members and their transports stay in the
tables, and every edge is under way or there. -/
structure MeshInv (uuid : Uuid) (c : Coord κ) : Prop where
  kept : ∀ t T, c.transportHeap.get? t = some T →
    c.spaceOf T.owningMember = some uuid → t ∈ c.transports.keys
  present : ∀ m, c.spaceOf m = some uuid → m ∈ c.membersOf uuid
  edges : ∀ a ∈ c.membersOf uuid, ∀ b ∈ c.membersOf uuid, a ≠ b →
    c.edgeState a b

section Invariant

variable {uuid : Uuid} {c c' : Coord κ}

/-- When nothing is under way, every edge is there. -/
theorem MeshInv.fullMesh (hI : MeshInv uuid c) (hq : c.quiescent) :
    FullMesh uuid c := by
  obtain ⟨-, hreq, -, htasks⟩ := hq
  have hmeshed : ∀ m, ¬ c.unmeshed m := by
    rintro m ⟨p, -, h | h⟩
    · rw [hreq] at h
      cases h
    · rw [htasks] at h
      cases h
  intro a ha b hb hne
  rcases hI.edges a ha b hb hne with h | h | h | h
  · exact absurd h (hmeshed a)
  · exact absurd h (hmeshed b)
  · obtain ⟨t, -, -, ht, -⟩ := h
    rw [hreq] at ht
    cases ht
  · exact h

/-- A stretch that keeps the edges and the members. -/
theorem MeshInv.mono (hI : MeshInv uuid c) (h : EdgeMono c c')
    (back : ∀ t T', c'.transportHeap.get? t = some T' → ∃ T,
      c.transportHeap.get? t = some T ∧ T'.owningMember = T.owningMember)
    (spaceOf : ∀ m, c'.spaceOf m = c.spaceOf m)
    (membersOf : c'.membersOf uuid = c.membersOf uuid)
    (transports : ∀ t T, c.transportHeap.get? t = some T →
      c.spaceOf T.owningMember = some uuid → t ∈ c.transports.keys →
      t ∈ c'.transports.keys) : MeshInv uuid c' where
  kept t T' hT' hu := by
    obtain ⟨T, hT, ho⟩ := back t T' hT'
    rw [spaceOf, ho] at hu
    exact transports t T hT hu (hI.kept t T hT hu)
  present m hm := by
    rw [membersOf]
    exact hI.present m (spaceOf m ▸ hm)
  edges := by
    rw [membersOf]
    exact fun a ha b hb hne => h.edgeState (hI.edges a ha b hb hne)

/-- A stretch of the control layer leaves every edge as it is. -/
theorem MeshInv.of_eq (hI : MeshInv uuid c)
    (memberHeap : c'.memberHeap = c.memberHeap)
    (transportHeap : c'.transportHeap = c.transportHeap)
    (requests : c'.transportRequests = c.transportRequests)
    (produced : ∀ p, .producerAllocated p ∈ c.tasks →
      .producerAllocated p ∈ c'.tasks)
    (membersOf : c'.membersOf uuid = c.membersOf uuid)
    (transports : ∀ t T, c.transportHeap.get? t = some T →
      c.spaceOf T.owningMember = some uuid → t ∈ c.transports.keys →
      t ∈ c'.transports.keys) : MeshInv uuid c' :=
  hI.mono (.of_eq memberHeap transportHeap requests produced)
    (fun _ T h => ⟨T, transportHeap ▸ h, rfl⟩)
    (fun m => by rw [Coord.spaceOf, Coord.spaceOf, memberHeap])
    membersOf transports

/-- The continuations other than the one taken are still there. -/
theorem produced_without {i : Nat} {t : Task κ} (ht : c.tasks[i]? = some t)
    (hne : ∀ p, t ≠ .producerAllocated p) {p : TransportId}
    (h : .producerAllocated p ∈ c.tasks) :
    .producerAllocated p ∈ (c.without i).tasks :=
  ((mem_eraseIdx_or ht).mp h).resolve_left fun heq => hne p heq.symm

/-- **The mesh of a new member** closes its edges. -/
theorem MeshInv.mesh (hI : MeshInv uuid c) (hwf : CoordWF c) {i : Nat}
    {p : TransportId} (ht : c.tasks[i]? = some (.producerAllocated p)) :
    MeshInv uuid (MemberService.allocateConsumers (c.without i) p) := by
  obtain ⟨T, uuid', hT, hn, hu, heq⟩ :=
    mesh_eq hwf.transport hwf.member ht
  have hok := meshEdges_ok hwf.transport hwf.member hT hn hu
  rw [heq]
  generalize hd : (c.without i).emit (.consumersAllocated T.owningMember) = d
  have hdwf : TransportWF d := by
    subst hd
    exact { hwf.transport.without i with }
  have hok' : ∀ e ∈ meshEdges c uuid' T.owningMember p,
      EdgeOK d T.owningRouter e := by
    subst hd
    exact fun e he => ⟨(hok e he).edge⟩
  -- the continuation that runs was the one of the new member
  have hun : ∀ m, m ≠ T.owningMember → c.unmeshed m → d.unmeshed m := by
    rintro m hm ⟨q, hq, hw⟩
    subst hd
    refine ⟨q, hq, hw.imp_right fun h => ?_⟩
    refine ((mem_eraseIdx_or ht).mp h).resolve_left fun heq => hm ?_
    cases heq
    obtain ⟨M, hM, -⟩ := Option.bind_eq_some_iff.mp hq
    obtain ⟨q', Q, hq', hQ, ho, -⟩ := hwf.transport.producer m
      M.owningSpace (by rw [Coord.spaceOf, hM]; rfl)
    cases hq.symm.trans hq'
    cases hT.symm.trans hQ
    exact ho.symm
  -- an edge whose source is in the table is requested
  have hpend : ∀ e ∈ meshEdges c uuid' T.owningMember p, ∀ b,
      c.producerOf b = some e.2 → (requestAll T.owningRouter d
        (meshEdges c uuid' T.owningMember p)).pendingEdge e.1 b := by
    intro e he b hb
    refine requestAll_pending _ hdwf hok' e he b ?_
    subst hd
    exact hb
  obtain ⟨hmh, hsp, htr, hback⟩ := requestAll_tables
    T.owningRouter (meshEdges c uuid' T.owningMember p) d
  have hspace : ∀ m, (requestAll T.owningRouter d
      (meshEdges c uuid' T.owningMember p)).spaceOf m = c.spaceOf m := by
    intro m
    rw [Coord.spaceOf, hmh]
    subst hd
    rfl
  have hmembers : (requestAll T.owningRouter d
      (meshEdges c uuid' T.owningMember p)).membersOf uuid
        = c.membersOf uuid := by
    rw [Coord.membersOf, hsp]
    subst hd
    rfl
  have hmono := requestAll_mono _ hdwf hok'
  refine ⟨fun t T' hT' hu' => ?_, fun m hm => ?_, ?_⟩
  · rcases hback t T' hT' with h | h
    · refine htr t ?_
      rw [hspace] at hu'
      subst hd
      exact hI.kept t T' h hu'
    · exact h
  · rw [hmembers]
    exact hI.present m (hspace m ▸ hm)
  · rw [hmembers]
    intro a ha b hb hne
    obtain ⟨-, hau⟩ := (hwf.member.mem uuid a).mp ha
    obtain ⟨-, hbu⟩ := (hwf.member.mem uuid b).mp hb
    by_cases hax : a = T.owningMember
    · -- the new member consumes from `b`
      subst hax
      cases hau.symm.trans hu
      obtain ⟨q, Q, hq, hQ, ho, -⟩ := hwf.transport.producer b uuid hbu
      have hin := hI.kept q Q hQ (ho.symm ▸ hbu)
      refine .inr (.inr (.inl (hpend (T.owningMember, q) ?_ b hq)))
      refine List.mem_flatMap.mpr ⟨b, hb, ?_⟩
      rw [pairEdges, if_neg (Ne.symm hne), hq]
      simp [JsMap.has_eq_true_iff_mem.mpr hin]
    · by_cases hbx : b = T.owningMember
      · -- `a` consumes from the new member
        subst hbx
        cases hbu.symm.trans hu
        have hin := hI.kept p T hT hu
        refine .inr (.inr (.inl (hpend (a, p) ?_ T.owningMember
          (hwf.transport.isProducer p T hT hn))))
        refine List.mem_flatMap.mpr ⟨a, ha, ?_⟩
        rw [pairEdges, if_neg hax]
        simp [JsMap.has_eq_true_iff_mem.mpr hin]
      · refine hmono.edgeState ?_
        refine (hI.edges a ha b hb hne).imp (hun a hax) fun he =>
          he.imp (hun b hbx) fun he => ?_
        subst hd
        exact he

/-- An ack turns a requested edge into an entry, or a producer request into
the continuation that starts the edges of its owner. -/
theorem MeshInv.transportAck (hI : MeshInv uuid c) (hwf : CoordWF c)
    {id : TransportId} (options : Json)
    (hid : id ∈ c.transportRequests.keys) :
    MeshInv uuid (TransportAllocator.onTransportAck c id options) := by
  obtain ⟨T, hT, -⟩ := hwf.transport.requested id hid
  have hne : T.consumesFromTransportId ≠ some id :=
    hwf.transport.source_ne hT
  have hframe := TransportAllocator.onTransportAck_frame c id options
  have hspec := onTransportAck_spec options hT hne
  generalize TransportAllocator.onTransportAck c id options = c'
    at hframe hspec ⊢
  have hspace := hframe.members_eq.spaceOf
  have hforth : ∀ t S, c.transportHeap.get? t = some S → ∃ S',
      c'.transportHeap.get? t = some S' ∧
        S'.owningMember = S.owningMember ∧
        S'.consumesFromTransportId = S.consumesFromTransportId ∧
        (t = id ∨ S.status ≠ .unallocated → S'.status ≠ .unallocated) := by
    intro t S hS
    rw [hspec.heap]
    split
    · rename_i h
      subst h
      cases hT.symm.trans hS
      exact ⟨_, rfl, rfl, rfl, fun _ => by simp⟩
    · rename_i h
      exact ⟨S, hS, rfl, rfl, fun hst => hst.resolve_left h⟩
  have hunmeshed : ∀ m, c.unmeshed m → c'.unmeshed m := by
    rintro m ⟨q, hq, hw⟩
    refine ⟨q, (hspec.producerOf m).trans hq, ?_⟩
    rw [hspec.tasks]
    rcases hw with hw | hw
    · by_cases h : q = id
      · subst h
        -- the producer of `m` was acked: its continuation is ready
        obtain ⟨M, hM, -⟩ := Option.bind_eq_some_iff.mp hq
        obtain ⟨q', Q, hq', hQ, -, hn⟩ := hwf.transport.producer m
          M.owningSpace (by rw [Coord.spaceOf, hM]; rfl)
        cases hq.symm.trans hq'
        cases hT.symm.trans hQ
        exact .inr (by simp [hn])
      · exact .inl ((hspec.requests q).mpr ⟨h, hw⟩)
    · exact .inr (List.mem_append_left _ hw)
  have hentry : ∀ a b, c.spaceOf a = some uuid → a = T.owningMember →
      c.consumesFromMember T = some (some b) → c'.consumes a b := by
    rintro a b hau rfl hsrc
    obtain ⟨s, S, hs, -, hS, rfl⟩ := consumesFromMember_eq_some hsrc
    obtain ⟨S₀, hS₀, hn, -⟩ := hwf.transport.source id T s hT hs
    cases hS.symm.trans hS₀
    obtain ⟨M, hM, -⟩ := Option.map_eq_some_iff.mp hau
    obtain ⟨M', hM', hb⟩ := hspec.map _ M S.owningMember hM
    rw [if_pos ⟨rfl, hsrc⟩, JsMap.has_eq_true_iff_mem.mpr
      (hI.kept id T hT hau), if_pos rfl] at hb
    obtain ⟨T', hT', ho, hs', hst⟩ := hforth id T hT
    exact ⟨M', id, T', s, hM', hb, hT', hst (.inl rfl), ho,
      (hspec.producerOf _).trans (hwf.transport.isProducer s S hS hn),
      hs'.trans hs⟩
  have hpending : ∀ a b, c.spaceOf a = some uuid → c.spaceOf b = some uuid →
      c.pendingEdge a b → c'.pendingEdge a b ∨ c'.consumes a b := by
    rintro a b hau hbu ⟨t, S, q, ht, hS, ho, hq, hs⟩
    by_cases h : t = id
    · subst h
      cases hT.symm.trans hS
      refine .inr (hentry a b hau ho.symm ?_)
      obtain ⟨q', Q, hq', hQ, hob, -⟩ := hwf.transport.producer b uuid hbu
      cases hq.symm.trans hq'
      have hin := hI.kept q Q hQ (hob.symm ▸ hbu)
      rw [Coord.consumesFromMember, hs]
      dsimp only
      rw [TransportAllocator.get, JsMap.has_eq_true_iff_mem.mpr hin,
        if_pos rfl, hQ, Option.map_some, hob]
    · obtain ⟨S', hS', ho', hs', -⟩ := hforth t S hS
      exact .inl ⟨t, S', q, (hspec.requests t).mpr ⟨h, ht⟩, hS',
        ho'.trans ho, (hspec.producerOf b).trans hq, hs'.trans hs⟩
  have hconsumes : ∀ a b, c.spaceOf a = some uuid → c.consumes a b →
      c'.consumes a b := by
    rintro a b hau ⟨M, t, S, q, hM, hb, hS, hst, ho, hq, hs⟩
    by_cases h : a = T.owningMember ∧ c.consumesFromMember T = some (some b)
    · exact hentry a b hau h.1 h.2
    · obtain ⟨M', hM', hb'⟩ := hspec.map a M b hM
      rw [if_neg h] at hb'
      obtain ⟨S', hS', ho', hs', hst'⟩ := hforth t S hS
      exact ⟨M', t, S', q, hM', hb'.trans hb, hS', hst' (.inr hst),
        ho'.trans ho, (hspec.producerOf b).trans hq, hs'.trans hs⟩
  constructor
  · intro t S' hS' hu
    rw [hspec.transports]
    rw [hspace] at hu
    rw [hspec.heap] at hS'
    split at hS'
    · rename_i h
      cases hS'
      exact h ▸ hI.kept id T hT hu
    · exact hI.kept t S' hS' hu
  · intro m hm
    rw [hframe.members_eq.membersOf]
    exact hI.present m (hspace m ▸ hm)
  · rw [hframe.members_eq.membersOf]
    intro a ha b hb hab
    have hau := ((hwf.member.mem uuid a).mp ha).2
    have hbu := ((hwf.member.mem uuid b).mp hb).2
    rcases hI.edges a ha b hb hab with h | h | h | h
    · exact .inl (hunmeshed a h)
    · exact .inr (.inl (hunmeshed b h))
    · exact .inr (.inr (hpending a b hau hbu h))
    · exact .inr (.inr (.inr (hconsumes a b hau h)))

/-- A new member starts unmeshed. -/
theorem MeshInv.join (hI : MeshInv uuid c) (hwf : CoordWF c)
    {uuid' : Uuid} {data : MemberData} {state : MemberState} {r : RouterId}
    (hspec : JoinSpec c c' uuid' data state r)
    (hmem : ∀ m, m ∈ c'.membersOf uuid ↔
      m ∈ c.membersOf uuid ∨ m = c.memberIdGen ∧ uuid = uuid')
    (htasks : ∀ p, .producerAllocated p ∈ c.tasks →
      .producerAllocated p ∈ c'.tasks) : MeshInv uuid c' := by
  -- what was there goes on: edges, requests and continuations
  have hmono : EdgeMono c c' := by
    refine ⟨fun m q hq => ?_, fun t ht => (hspec.requests t).mpr (.inr ht),
      htasks, fun t T hT => ⟨T, hspec.heap_old hwf.transport hT, rfl, rfl,
        fun h => h⟩, fun m M b t hM hb => ⟨M, ?_, hb⟩⟩
    · obtain ⟨M, hM, -⟩ := Option.bind_eq_some_iff.mp hq
      rw [hspec.producerOf, if_neg, hq]
      exact (hspec.spaceOf_old hwf.member (u := M.owningSpace)
        (by rw [Coord.spaceOf, hM]; rfl)).1
    · rw [hspec.memberHeap, if_neg, hM]
      exact (hspec.spaceOf_old hwf.member (u := M.owningSpace)
        (by rw [Coord.spaceOf, hM]; rfl)).1
  -- the producer of the new member is requested, so it has no mesh yet
  have hnew : c'.unmeshed c.memberIdGen := by
    refine ⟨c.transportIdGen, by rw [hspec.producerOf, if_pos rfl], .inl ?_⟩
    exact (hspec.requests _).mpr (.inl rfl)
  constructor
  · intro t T hT hu
    rw [hspec.heap] at hT
    split at hT
    · rename_i h
      exact (hspec.transports t).mpr (.inl h)
    · obtain ⟨u, hu', -⟩ := hwf.transport.owned t T hT
      rw [(hspec.spaceOf_old hwf.member hu').2] at hu
      exact (hspec.transports t).mpr
        (.inr (hI.kept t T hT (hu'.trans hu)))
  · intro m hm
    rw [hspec.spaceOf] at hm
    rw [hmem]
    split at hm
    · rename_i h
      exact .inr ⟨h, (Option.some.inj hm).symm⟩
    · exact .inl (hI.present m hm)
  -- a pair is an old one, or has the new member in it
  · intro a ha b hb hab
    rcases (hmem a).mp ha with ha | ⟨rfl, -⟩
    · rcases (hmem b).mp hb with hb | ⟨rfl, -⟩
      · exact hmono.edgeState (hI.edges a ha b hb hab)
      · exact .inr (.inl hnew)
    · exact .inl hnew

/-- Transports that go are not those of a member of `uuid`. -/
theorem MeshInv.dropTransport (hI : MeshInv uuid c) {t : TransportId}
    (ht : ∀ T, c.transportHeap.get? t = some T →
      c.spaceOf T.owningMember ≠ some uuid) :
    MeshInv uuid (TransportAllocator.remove c t) := by
  refine hI.of_eq rfl rfl rfl (fun _ h => h) rfl fun t' T hT hu hin => ?_
  refine JsMap.mem_keys_delete.mpr ⟨?_, hin⟩
  rintro rfl
  exact ht T hT hu

/-- A nack for a transport of another space keeps the edges. -/
theorem MeshInv.transportNack (hI : MeshInv uuid c) (hwf : CoordWF c)
    {id : TransportId} (hid : ∀ T, c.transportHeap.get? id = some T →
      c.spaceOf T.owningMember ≠ some uuid) :
    MeshInv uuid (TransportAllocator.onTransportNack c id) := by
  have hreq : ∀ t T, c.transportHeap.get? t = some T →
      c.spaceOf T.owningMember = some uuid → t ∈ c.transportRequests.keys →
      t ∈ (TransportAllocator.onTransportNack c id).transportRequests.keys :=
    fun t T hT hu ht => JsMap.mem_keys_delete.mpr
      ⟨fun h => hid T (h ▸ hT) hu, ht⟩
  have hun : ∀ m, c.spaceOf m = some uuid → c.unmeshed m →
      (TransportAllocator.onTransportNack c id).unmeshed m := by
    rintro m hm ⟨p, hp, hw⟩
    obtain ⟨p', T, hp', hT, ho, -⟩ := hwf.transport.producer m uuid hm
    cases hp.symm.trans hp'
    exact ⟨p, hp, hw.imp_left (hreq p T hT (ho.symm ▸ hm))⟩
  refine { hI with edges := fun a ha b hb hab => ?_ }
  have hau := ((hwf.member.mem uuid a).mp ha).2
  have hbu := ((hwf.member.mem uuid b).mp hb).2
  refine (hI.edges a ha b hb hab).imp (hun a hau) fun h =>
    h.imp (hun b hbu) fun h => h.imp_left ?_
  rintro ⟨t, T, q, ht, hT, ho, hq, hs⟩
  exact ⟨t, T, q, hreq t T hT (ho.symm ▸ hau) ht, hT, ho, hq, hs⟩

/-- Connecting a transport keeps the edges. -/
theorem MeshInv.connect (hI : MeshInv uuid c) (id : TransportId)
    {updateRequests : JsMap Nat (UpdateRequest κ)} {out : List (Out κ)} :
    MeshInv uuid { c with
      transportHeap := c.transportHeap.modify id fun t =>
        { t with status := .connected }
      updateRequests, out } := by
  refine hI.mono ⟨fun _ _ h => h, fun _ h => h, fun _ h => h,
    fun t T hT => ?_, fun _ M _ _ h hb => ⟨M, h, hb⟩⟩ (fun t T' hT' => ?_)
    (fun _ => rfl) rfl fun _ _ _ _ h => h
  · simp only [JsMap.get?_modify]
    split
    · rename_i h
      subst h
      exact ⟨{ T with status := .connected }, by rw [hT]; rfl, rfl, rfl,
        fun _ => by simp⟩
    · exact ⟨T, hT, rfl, rfl, fun h => h⟩
  · rcases JsMap.get?_modify_cases hT' with ⟨rfl, T, hT, rfl⟩ | ⟨-, hT'⟩
    · exact ⟨T, hT, rfl⟩
    · exact ⟨T', hT', rfl⟩

/-- There is no member to mesh. -/
theorem meshInv_initial : MeshInv uuid (Coord.initial : Coord κ) where
  kept _ _ h := by cases h
  present _ h := by cases h
  edges _ h := by cases h

end Invariant

/-! ## §4. Every run. -/

section Runs

variable [Callback κ] {uuid : Uuid}

/-- The media layer keeps the invariant of a space that only grows. -/
theorem mesh_media {base c c' : Coord κ} {a : Action κ}
    {tr : List (Out κ)} (hg : onlyGrows uuid tr base a)
    (hwfb : CoordWF base) (hb : MeshInv uuid base)
    (he : MediaEffect base a c c') (hwf : CoordWF c)
    (hI : MeshInv uuid c) : MeshInv uuid c' := by
  -- by the kind of effect: transports may go with a member or by a nack
  cases he with
  | emit => exact hI.of_eq rfl rfl rfl (fun _ h => h) rfl fun _ _ _ _ h => h
  | answer =>
      exact hI.of_eq rfl rfl rfl (fun _ h => List.mem_append_left _ h) rfl
        fun _ _ _ _ h => h
  | @dropTransport _ cb id member t ha hm hh hc ht =>
      subst ha
      -- the guard: the member that goes is in another space
      refine hI.dropTransport fun T hT hu => hg ?_
      have ho : T.owningMember = id :=
        hwf.transport.owner_of_member (hc ▸ hh) ht hT
      rw [ho, Coord.spaceOf, hc] at hu
      exact (hwfb.member.mem uuid id).mpr ⟨hm, hu⟩
  | mesh ha ht => exact hb.mesh hwfb ht
  | transportAck ha h => exact hb.transportAck hwfb _ h
  | @transportNack id message ha h =>
      -- the guard excludes a nack about this space
      subst ha
      exact hI.transportNack hwfb fun T hT => hg T (Option.mem_def.mpr hT)
  | publishUpdate =>
      exact hI.of_eq rfl rfl rfl (fun _ h => h) rfl fun _ _ _ _ h => h
  | @updateAck id r resp ha h =>
      obtain ⟨heap, l, heq, -, hheap⟩ := onUpdateAck_eq base id r resp
      rw [heq]
      -- the ack may set a transport's status, which no edge looks at
      rcases hheap with rfl | rfl
      · exact hI.of_eq rfl rfl rfl (fun _ h => h) rfl fun _ _ _ _ h => h
      · exact hI.connect r.transport
  | @updateNack id r message ha h =>
      obtain ⟨l, heq, -⟩ := onUpdateNack_eq base id r message
      rw [heq]
      exact hI.of_eq rfl rfl rfl (fun _ h => h) rfl fun _ _ _ _ h => h

/-- Every effect keeps the invariant of a space that only grows. -/
theorem mesh_effect {base c c' : Coord κ} {a : Action κ}
    {tr : List (Out κ)} (hg : onlyGrows uuid tr base a)
    (hwfb : CoordWF base) (hb : MeshInv uuid base)
    (he : Effect base a c c') (hwf : CoordWF c) (hI : MeshInv uuid c) :
    MeshInv uuid c' := by
  cases he with
  | media h => exact mesh_media hg hwfb hb h hwf hI
  | createSpace _ uuid' data policy hn =>
      refine hI.of_eq rfl rfl rfl (fun _ h => h) ?_ fun _ _ _ _ h => h
      simp only [Coord.membersOf, JsMap.get?_set]
      by_cases h : uuid = uuid'
      · rw [if_pos h, h, hn]
        rfl
      · rw [if_neg h]
  | unsubscribe | workers =>
      exact hI.of_eq rfl rfl rfl (fun _ h => h) rfl fun _ _ _ _ h => h
  | subscribe serverId uuid' ha ht =>
      exact hI.of_eq rfl rfl rfl
        (fun _ => produced_without ht fun _ => by simp) rfl
        fun _ _ _ _ h => h
  | resolve | routerNack =>
      exact hI.of_eq rfl rfl rfl (fun _ h => List.mem_append_left _ h) rfl
        fun _ _ _ _ h => h
  | request =>
      exact hI.of_eq rfl rfl rfl (fun _ h => h) rfl fun _ _ _ _ h => h
  | routerAck ha hw =>
      rw [onRouterAck_eq hwf.router _ hw]
      exact hI.of_eq rfl rfl rfl (fun _ h => List.mem_append_left _ h)
        (members_modify _ _ (fun _ => by rfl) _) fun _ _ _ _ h => h
  | take ha ht hq =>
      exact hI.of_eq rfl rfl rfl
        (fun _ => produced_without ht (answers_ne_produced hq)) rfl
        fun _ _ _ _ h => h
  | run ha ht =>
      exact hI.of_eq rfl rfl rfl
        (fun _ => produced_without ht fun _ => by simp)
        (members_modify _ _ (fun _ => by rfl) _) fun _ _ _ _ h => h
  | finish ha ht =>
      exact hI.of_eq rfl rfl rfl
        (fun _ => produced_without ht fun _ => by simp)
        ((members_modify _ _ (fun _ => by rfl) _).trans
          (members_modify _ _ (fun _ => by rfl) _)) fun _ _ _ _ h => h
  | finishNow =>
      exact hI.of_eq rfl rfl rfl (fun _ h => h)
        (members_modify _ _ (fun _ => by rfl) _) fun _ _ _ _ h => h
  | @beginEnd _ uuid' space r k hs hd hr =>
      have hkeep : ∀ t T, c.transportHeap.get? t = some T →
          c.spaceOf T.owningMember = some uuid → t ∈ c.transports.keys →
          t ∈ (RouterAllocator.remove c r).transports.keys := by
        refine fun t T hT hu hin => remove_transports.mpr ⟨hin, ?_⟩
        rintro ⟨-, R, hR, ht⟩
        -- the router is of the space that ends, and that has no member
        obtain ⟨T', hT', rfl⟩ := hwf.transport.onRouter r R t hR ht
        cases hT.symm.trans hT'
        obtain ⟨u, hu', hown⟩ := hwf.transport.owned t T hT
        obtain ⟨caps, hv⟩ := hwf.router.primary uuid' T.owningRouter
          (by rw [Coord.primaryOf, hs]; exact hr)
        obtain ⟨R', hR', hcaps⟩ := Option.map_eq_some_iff.mp hv
        obtain ⟨R'', hR'', rfl⟩ := Option.map_eq_some_iff.mp hown
        cases hR'.symm.trans hR''
        cases hu.symm.trans hu'
        have hm := hI.present _ hu
        rw [(Prod.mk.inj hcaps).1, Coord.membersOf, hs] at hm
        have hsize := hd.members
        rw [JsMap.size_eq_length_keys, List.length_eq_zero_iff] at hsize
        simp [hsize] at hm
      obtain ⟨transports, routers, l, heq, -⟩ := remove_eq c r
      rw [heq] at hkeep ⊢
      exact hI.of_eq rfl rfl rfl (fun _ h => List.mem_append_left _ h) rfl
        hkeep
  | @join i uuid' data state cb r ha ht =>
      have hwf' : CoordWF (base.without i) :=
        ⟨(without_routerFrame base i).wf hwf.router, { hwf.member with },
          hwf.transport.without i⟩
      have hI' : MeshInv uuid (base.without i) :=
        hI.of_eq rfl rfl rfl (fun _ => produced_without ht fun _ => by simp)
          rfl fun _ _ _ _ h => h
      refine hI'.join hwf' (join_spec _ _ _ _ _) (fun m => ?_) fun _ h => h
      exact membersOf_add data state uuid' uuid (hwf.router.allocatedKnown _ _
        (List.mem_of_getElem? ht)) m
  | @removeMember _ cb id member ha hm hh hmc hc =>
      subst ha
      have hne : uuid ≠ member.owningSpace := by
        rintro rfl
        refine hg ((hwfb.member.mem _ id).mpr ⟨hm, ?_⟩)
        rw [Coord.spaceOf, hh]
        rfl
      refine hI.of_eq rfl rfl rfl (fun _ h => h) ?_ fun _ _ _ _ h => h
      simp only [Coord.membersOf, MemberService.remove]
      rw [JsMap.get?_modify_of_ne _ _ hne]

/-- In every guarded run each pair is meshed or its mesh is under way. -/
theorem mesh_run {past : List (Coord κ)} {c : Coord κ} {tr : List (Out κ)}
    (h : (machine κ).Run (onlyGrows uuid) past c tr) :
    CoordWF c ∧ MeshInv uuid c := by
  have hinv := run_invariant (G := onlyGrows uuid)
    (fun tr c a out h => by cases a <;> exact h)
    (fun _ c => CoordWF c ∧ MeshInv uuid c)
    ⟨coordWF_initial, meshInv_initial⟩
    (fun tr c hI => ⟨⟨{ hI.1.router with }, { hI.1.member with },
      { hI.1.transport with }⟩, { hI.2 with }⟩)
    (fun tr c a d d' _ hg hb he hd => ⟨coordWF_effect hb.1 he hd.1,
      mesh_effect hg hb.1 hb.2 he hd.1 hd.2⟩) h
  exact ⟨⟨{ hinv.1.router with }, { hinv.1.member with },
      { hinv.1.transport with }⟩, { hinv.2 with }⟩

/-- **Mesh completeness.**  When members of a space only join, transport
requests are only acked and nothing is under way, every member consumes from
every other. -/
theorem fullMesh_of_onlyGrows (uuid : Uuid) {past : List (Coord κ)}
    {c : Coord κ} {tr : List (Out κ)}
    (h : (machine κ).Run (onlyGrows uuid) past c tr) (hq : c.quiescent) :
    FullMesh uuid c :=
  (mesh_run h).2.fullMesh hq

end Runs

/-- A running space with one subscribed server. -/
def openRoom : List (Action Unit) :=
  [.mediaWorkerConnected 1,
   .createSpaceRequest "room" ⟨"Room", ""⟩ "subscription-driven" (),
   .subscribeToSpaceRequest 1 "room" (), .routerAck 0 "caps", .resume 0,
   .resume 0]

/-- The request and the join of one member. -/
def joinRoom (name : String) : List (Action Unit) :=
  [.addMemberRequest 1 "room" ⟨name⟩ ⟨false, false⟩ (), .resume 0]

/-- Two members join before a worker answers, and end up meshed. -/
theorem fullMesh_of_onlyGrows_pair : ∃ past c tr,
    (machine Unit).Run (onlyGrows "room") past c tr ∧ c.quiescent ∧
      c.membersOf "room" = [0, 1] ∧ FullMesh "room" c := by
  obtain ⟨past, c, tr, hr, hp⟩ := Machine.Run.exists_of_exec
    (M := machine Unit) (G := onlyGrows "room")
    (l := openRoom ++ joinRoom "a" ++ joinRoom "b" ++
      [.transportAck 0 "a", .transportAck 1 "b", .resume 0,
       .transportAck 2 "b<a", .transportAck 3 "a<b", .resume 0,
       .transportAck 4 "a<b", .transportAck 5 "b<a"])
    (p := fun r => decide (r.2.1.quiescent ∧ r.2.1.membersOf "room" = [0, 1]))
    rfl (by decide)
  obtain ⟨hq, hm⟩ := of_decide_eq_true hp
  exact ⟨past, c, tr, hr, hq, hm, fullMesh_of_onlyGrows "room" hr hq⟩

end Twolk.Coordinator
