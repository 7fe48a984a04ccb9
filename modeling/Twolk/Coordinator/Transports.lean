/-
  Twolk.Coordinator.Transports
  ────────────────────────────
  **TRANSPORT RECORDS ARE WELL FORMED.**

  Every member has one producer transport, requested when it was added;
  every other transport of a member consumes from the producer transport of
  another member of the same space.  The consumer mesh a new member starts
  (`allocateConsumers`) is put in the form "request the edges of
  `meshEdges`", which is what later proofs use.
-/
import Twolk.Coordinator.Members

namespace Twolk.Coordinator

open Twolk.Lib

variable {κ : Type}

/-! ## §1. Well-formed transports. -/

/-- The space a router was requested for. -/
def Coord.routerOwner (c : Coord κ) (r : RouterId) : Option Uuid :=
  (c.routerHeap.get? r).map Router.owningSpace

/-- The producer transport of a member. -/
def Coord.producerOf (c : Coord κ) (m : MemberId) : Option TransportId :=
  (c.memberHeap.get? m).bind Member.producer

/-- What the code relies on when it follows a transport id. -/
structure TransportWF (c : Coord κ) : Prop where
  fresh : ∀ t T, c.transportHeap.get? t = some T → t < c.transportIdGen
  stored : ∀ t ∈ c.transports.keys, ∃ T, c.transportHeap.get? t = some T
  requested : ∀ t ∈ c.transportRequests.keys, ∃ T,
    c.transportHeap.get? t = some T ∧ T.status = .unallocated
  produced : ∀ t, .producerAllocated t ∈ c.tasks → ∃ T,
    c.transportHeap.get? t = some T ∧ T.consumesFromTransportId = none
  owned : ∀ t T, c.transportHeap.get? t = some T → ∃ uuid,
    c.spaceOf T.owningMember = some uuid ∧
      c.routerOwner T.owningRouter = some uuid
  /-- Every member has its producer transport … -/
  producer : ∀ m uuid, c.spaceOf m = some uuid → ∃ p T,
    c.producerOf m = some p ∧ c.transportHeap.get? p = some T ∧
      T.owningMember = m ∧ T.consumesFromTransportId = none
  /-- … and no other transport that consumes from nothing. -/
  isProducer : ∀ t T, c.transportHeap.get? t = some T →
    T.consumesFromTransportId = none → c.producerOf T.owningMember = some t
  source : ∀ t T s, c.transportHeap.get? t = some T →
    T.consumesFromTransportId = some s → ∃ S,
      c.transportHeap.get? s = some S ∧ S.consumesFromTransportId = none ∧
      S.owningMember ≠ T.owningMember ∧
      c.spaceOf S.owningMember = c.spaceOf T.owningMember
  /-- An entry of a consumer map is an allocated transport from the member
  it is stored under. -/
  consumers : ∀ m M b t, c.memberHeap.get? m = some M →
    M.memberToConsumerMap.get? b = some (some t) → ∃ T s S,
      c.transportHeap.get? t = some T ∧ T.owningMember = m ∧
      T.status ≠ .unallocated ∧ T.consumesFromTransportId = some s ∧
      c.transportHeap.get? s = some S ∧ S.owningMember = b
  onRouter : ∀ r R t, c.routerHeap.get? r = some R → t ∈ R.transports.keys →
    ∃ T, c.transportHeap.get? t = some T ∧ T.owningRouter = r
  /-- Updates are published for allocated transports only. -/
  updated : ∀ n r, c.updateRequests.get? n = some r → ∃ T,
    c.transportHeap.get? r.transport = some T ∧ T.status ≠ .unallocated

/-- The next transport is not there yet. -/
theorem TransportWF.heap_next {c : Coord κ} {t : TransportId}
    (hI : TransportWF c) (h : c.transportIdGen ≤ t) :
    c.transportHeap.get? t = none := by
  by_contra hne
  obtain ⟨T, hT⟩ := Option.ne_none_iff_exists'.mp hne
  exact absurd (hI.fresh t T hT) (Nat.not_lt.mpr h)

/-- `c'` has the transports of `c`, and its tables hold no more of them. -/
structure TransportFrame (c c' : Coord κ) : Prop where
  memberHeap : c'.memberHeap = c.memberHeap
  transportHeap : c'.transportHeap = c.transportHeap
  transportIdGen : c'.transportIdGen = c.transportIdGen
  transports : ∀ t ∈ c'.transports.keys, t ∈ c.transports.keys
  requests : ∀ t ∈ c'.transportRequests.keys, t ∈ c.transportRequests.keys
  produced : ∀ t, .producerAllocated t ∈ c'.tasks →
    .producerAllocated t ∈ c.tasks
  routerOwner : ∀ r uuid, c.routerOwner r = some uuid →
    c'.routerOwner r = some uuid
  onRouter : ∀ r R' t, c'.routerHeap.get? r = some R' →
    t ∈ R'.transports.keys →
    ∃ R, c.routerHeap.get? r = some R ∧ t ∈ R.transports.keys
  updates : ∀ n r, c'.updateRequests.get? n = some r →
    c.updateRequests.get? n = some r

namespace TransportFrame

variable {c c' : Coord κ}

theorem refl (c : Coord κ) : TransportFrame c c where
  memberHeap := rfl
  transportHeap := rfl
  transportIdGen := rfl
  transports _ h := h
  requests _ h := h
  produced _ h := h
  routerOwner _ _ h := h
  onRouter _ R' _ h ht := ⟨R', h, ht⟩
  updates _ _ h := h

theorem spaceOf (h : TransportFrame c c') (m : MemberId) :
    c'.spaceOf m = c.spaceOf m := by
  rw [Coord.spaceOf, Coord.spaceOf, h.memberHeap]

theorem producerOf (h : TransportFrame c c') (m : MemberId) :
    c'.producerOf m = c.producerOf m := by
  rw [Coord.producerOf, Coord.producerOf, h.memberHeap]

/-- A step that leaves the transports alone keeps them in order. -/
theorem wf (h : TransportFrame c c') (hI : TransportWF c) :
    TransportWF c' where
  fresh t T := by
    rw [h.transportHeap, h.transportIdGen]
    exact hI.fresh t T
  stored t ht := by
    rw [h.transportHeap]
    exact hI.stored t (h.transports t ht)
  requested t ht := by
    rw [h.transportHeap]
    exact hI.requested t (h.requests t ht)
  produced t ht := by
    rw [h.transportHeap]
    exact hI.produced t (h.produced t ht)
  owned t T := by
    rw [h.transportHeap, h.spaceOf]
    intro ht
    obtain ⟨uuid, hs, hr⟩ := hI.owned t T ht
    exact ⟨uuid, hs, h.routerOwner _ _ hr⟩
  producer m uuid := by
    rw [h.transportHeap, h.spaceOf, h.producerOf]
    exact hI.producer m uuid
  isProducer t T := by
    rw [h.transportHeap, h.producerOf]
    exact hI.isProducer t T
  source t T s := by
    rw [h.transportHeap]
    intro ht hs
    obtain ⟨S, hS, hn, hne, hsp⟩ := hI.source t T s ht hs
    exact ⟨S, hS, hn, hne, by rw [h.spaceOf, h.spaceOf, hsp]⟩
  consumers m M b t := by
    rw [h.transportHeap, h.memberHeap]
    exact hI.consumers m M b t
  onRouter r R' t hR' ht := by
    rw [h.transportHeap]
    obtain ⟨R, hR, ht⟩ := h.onRouter r R' t hR' ht
    exact hI.onRouter r R t hR ht
  updated n r hn := by
    rw [h.transportHeap]
    exact hI.updated n r (h.updates n r hn)

/-- A stretch that leaves transports, members and routers alone. -/
theorem of_eq (memberHeap : c'.memberHeap = c.memberHeap)
    (transportHeap : c'.transportHeap = c.transportHeap)
    (transportIdGen : c'.transportIdGen = c.transportIdGen)
    (routerHeap : c'.routerHeap = c.routerHeap)
    (transports : ∀ t ∈ c'.transports.keys, t ∈ c.transports.keys)
    (requests : ∀ t ∈ c'.transportRequests.keys,
      t ∈ c.transportRequests.keys)
    (produced : ∀ t, .producerAllocated t ∈ c'.tasks →
      .producerAllocated t ∈ c.tasks)
    (updates : ∀ n r, c'.updateRequests.get? n = some r →
      c.updateRequests.get? n = some r) : TransportFrame c c' where
  memberHeap := memberHeap
  transportHeap := transportHeap
  transportIdGen := transportIdGen
  transports := transports
  requests := requests
  produced := produced
  routerOwner r uuid h := by rwa [Coord.routerOwner, routerHeap]
  onRouter r R' t h ht := ⟨R', routerHeap ▸ h, ht⟩
  updates := updates

end TransportFrame

/-! ## §2. Requesting a consumer transport. -/

/-- The record of a requested transport. -/
def requestedTransport (router : RouterId) (member : MemberId)
    (source : Option TransportId) : Transport :=
  { owningMember := member, owningRouter := router,
    consumesFromTransportId := source, status := .unallocated,
    options := none }

section Request

variable {c : Coord κ} {router : RouterId} {member : MemberId}

/-- The new transport is the only one that changes. -/
theorem transportHeap_request (source : Option TransportId)
    (t : TransportId) :
    (TransportAllocator.request c router member source).transportHeap.get? t
      = if t = c.transportIdGen then
          some (requestedTransport router member source)
        else c.transportHeap.get? t :=
  JsMap.get?_set _ _ _ _

/-- A record known before the request is the same after it. -/
theorem TransportWF.request_old (hI : TransportWF c)
    (source : Option TransportId) {t : TransportId} {T : Transport}
    (h : c.transportHeap.get? t = some T) :
    (TransportAllocator.request c router member source).transportHeap.get? t
      = some T := by
  rw [transportHeap_request, if_neg, h]
  rintro rfl
  exact Nat.lt_irrefl _ (hI.fresh _ T h)

/-- No router changes hands. -/
theorem routerOwner_request (source : Option TransportId) (r : RouterId) :
    (TransportAllocator.request c router member source).routerOwner r
      = c.routerOwner r := by
  simp only [Coord.routerOwner, TransportAllocator.request,
    JsMap.get?_modify]
  split
  · rename_i h
    subst h
    cases c.routerHeap.get? r <;> rfl
  · rfl

/-- What is on a router after a request was there, or is the new transport. -/
theorem onRouter_request (hI : TransportWF c) (source : Option TransportId)
    {r : RouterId} {R : Router} {t : TransportId}
    (hR : (TransportAllocator.request c router member
      source).routerHeap.get? r = some R) (ht : t ∈ R.transports.keys) :
    ∃ T, (TransportAllocator.request c router member
      source).transportHeap.get? t = some T ∧ T.owningRouter = r := by
  have hR : (c.routerHeap.modify router fun r =>
    { r with transports := JsSet.add r.transports c.transportIdGen }).get? r
      = some R := hR
  rcases JsMap.get?_modify_cases hR with ⟨rfl, R₀, hR₀, rfl⟩ | ⟨-, hR⟩
  · rcases JsSet.mem_keys_add.mp ht with rfl | ht
    · exact ⟨_, by rw [transportHeap_request, if_pos rfl], rfl⟩
    · obtain ⟨T, hT, hr⟩ := hI.onRouter r R₀ t hR₀ ht
      exact ⟨T, hI.request_old source hT, hr⟩
  · obtain ⟨T, hT, hr⟩ := hI.onRouter r R t hR ht
    exact ⟨T, hI.request_old source hT, hr⟩

/-- A pair of a consuming member and a producing transport of another
member of the space of `router`. -/
structure EdgeOK (c : Coord κ) (router : RouterId)
    (e : MemberId × TransportId) : Prop where
  edge : ∃ uuid S, c.spaceOf e.1 = some uuid ∧
    c.routerOwner router = some uuid ∧
    c.transportHeap.get? e.2 = some S ∧ S.consumesFromTransportId = none ∧
    S.owningMember ≠ e.1 ∧ c.spaceOf S.owningMember = some uuid

/-- Requesting one consumer transport keeps the transports in order. -/
theorem TransportWF.requestConsumer (hI : TransportWF c)
    {source : TransportId} (he : EdgeOK c router (member, source)) :
    TransportWF (TransportAllocator.request c router member
      (some source)) := by
  obtain ⟨uuid, S, hs, hr, hS, hn, hne, hsS⟩ := he.edge
  -- the one new transport is a consumer's
  have hcases : ∀ t T, (TransportAllocator.request c router member
      (some source)).transportHeap.get? t = some T →
        t = c.transportIdGen ∧
          T = requestedTransport router member (some source) ∨
        c.transportHeap.get? t = some T := by
    intro t T h
    rw [transportHeap_request] at h
    split at h
    · rename_i ht
      exact .inl ⟨ht, (Option.some.inj h).symm⟩
    · exact .inr h
  -- clause by clause: what was there keeps, and the new one satisfies it
  constructor
  case fresh =>
    intro t T h
    show t < c.transportIdGen + 1
    rcases hcases t T h with ⟨rfl, -⟩ | h
    · exact Nat.lt_succ_self _
    · exact Nat.lt_succ_of_lt (hI.fresh t T h)
  case stored =>
    intro t ht
    rcases JsSet.mem_keys_add.mp ht with rfl | ht
    · exact ⟨_, by rw [transportHeap_request, if_pos rfl]⟩
    · obtain ⟨T, hT⟩ := hI.stored t ht
      exact ⟨T, hI.request_old _ hT⟩
  case requested =>
    intro t ht
    rcases JsSet.mem_keys_add.mp ht with rfl | ht
    · exact ⟨_, by rw [transportHeap_request, if_pos rfl], rfl⟩
    · obtain ⟨T, hT, hst⟩ := hI.requested t ht
      exact ⟨T, hI.request_old _ hT, hst⟩
  case produced =>
    intro t ht
    obtain ⟨T, hT, hc⟩ := hI.produced t ht
    exact ⟨T, hI.request_old _ hT, hc⟩
  case owned =>
    intro t T h
    rw [routerOwner_request]
    rcases hcases t T h with ⟨-, rfl⟩ | h
    · exact ⟨uuid, hs, hr⟩
    · exact hI.owned t T h
  -- the producer of a member is never a consumer
  case producer =>
    intro m u hm
    obtain ⟨p, T, hp, hT, hm, hc⟩ := hI.producer m u hm
    exact ⟨p, T, hp, hI.request_old _ hT, hm, hc⟩
  case isProducer =>
    intro t T h hc
    rcases hcases t T h with ⟨-, rfl⟩ | h
    · cases hc
    · exact hI.isProducer t T h hc
  -- its source is the producer that the mesh has looked up
  case source =>
    intro t T s h hc
    rcases hcases t T h with ⟨-, rfl⟩ | h
    · cases hc
      exact ⟨S, hI.request_old _ hS, hn, hne, hsS.trans hs.symm⟩
    · obtain ⟨S', hS', hn', hne', hsp⟩ := hI.source t T s h hc
      exact ⟨S', hI.request_old _ hS', hn', hne', hsp⟩
  case consumers =>
    intro m M b t hM hb
    obtain ⟨T, s, S', hT, hm, hst, hs, hS', hb⟩ :=
      hI.consumers m M b t hM hb
    exact ⟨T, s, S', hI.request_old _ hT, hm, hst, hs,
      hI.request_old _ hS', hb⟩
  case onRouter => exact fun r R t hR ht => onRouter_request hI _ hR ht
  case updated =>
    intro n r hn
    obtain ⟨T, hT, hst⟩ := hI.updated n r hn
    exact ⟨T, hI.request_old _ hT, hst⟩

/-- A request keeps the other edges. -/
theorem EdgeOK.request (hI : TransportWF c) {e : MemberId × TransportId}
    (he : EdgeOK c router e) (member : MemberId) (source : TransportId) :
    EdgeOK (TransportAllocator.request c router member (some source)) router
      e := by
  obtain ⟨uuid, S, hs, hr, hS, hn, hne, hsS⟩ := he.edge
  exact ⟨uuid, S, hs, by rw [routerOwner_request, hr],
    hI.request_old _ hS, hn, hne, hsS⟩

end Request

/-! ## §3. The consumer mesh as a list of edges. -/

/-- Request the consumer transports of a list of edges. -/
def requestAll (router : RouterId) (c : Coord κ)
    (edges : List (MemberId × TransportId)) : Coord κ :=
  edges.foldl (fun c e => TransportAllocator.request c router e.1
    (some e.2)) c

/-- The edges between a new member `x` with producer `p` and one other
member: each direction whose producing transport is in the table. -/
def pairEdges (c : Coord κ) (x : MemberId) (p : TransportId)
    (other : MemberId) : List (MemberId × TransportId) :=
  if other = x then []
  else (if c.transports.has p then [(other, p)] else []) ++
    match c.producerOf other with
    | none => []
    | some q => if c.transports.has q then [(x, q)] else []

/-- The edges between a new member and the members of its space. -/
def meshEdges (c : Coord κ) (uuid : Uuid) (x : MemberId) (p : TransportId) :
    List (MemberId × TransportId) :=
  (c.membersOf uuid).flatMap (pairEdges c x p)

section Mesh

variable {c d : Coord κ} {router : RouterId}

/-- `d` is `c` with consumer transports requested: what the next request
reads is unchanged. -/
structure Grown (c d : Coord κ) : Prop where
  memberHeap : d.memberHeap = c.memberHeap
  has : ∀ t < c.transportIdGen, d.transports.has t = c.transports.has t
  transportIdGen : c.transportIdGen ≤ d.transportIdGen

/-- One more transport is asked for. -/
theorem Grown.request (h : Grown c d) (member : MemberId)
    (source : TransportId) :
    Grown c (TransportAllocator.request d router member (some source)) where
  memberHeap := h.memberHeap
  has t ht := by
    rw [← h.has t ht, Bool.eq_iff_iff, JsMap.has_eq_true_iff_mem,
      JsMap.has_eq_true_iff_mem]
    refine JsSet.mem_keys_add.trans (or_iff_right ?_)
    rintro rfl
    exact absurd (Nat.lt_of_lt_of_le ht h.transportIdGen) (Nat.lt_irrefl _)
  transportIdGen := Nat.le_succ_of_le h.transportIdGen

theorem Grown.requestAll : ∀ (edges : List (MemberId × TransportId))
    {d : Coord κ}, Grown c d → Grown c (requestAll router d edges)
  | [], _, h => h
  | e :: edges, _, h => Grown.requestAll edges (h.request e.1 e.2)

/-- Requests in two lists are requests in one. -/
theorem requestAll_append (edges edges' : List (MemberId × TransportId)) :
    requestAll router d (edges ++ edges')
      = requestAll router (requestAll router d edges) edges' :=
  List.foldl_append

/-- The `i`-th edge gets the `i`-th next transport id. -/
theorem requestAll_heap (router : RouterId) :
    ∀ (edges : List (MemberId × TransportId)) (c : Coord κ),
    (∀ t, c.transportIdGen ≤ t → c.transportHeap.get? t = none) →
    ∀ t, (requestAll router c edges).transportHeap.get? t
      = if c.transportIdGen ≤ t then
          (edges[t - c.transportIdGen]?).map fun e =>
            requestedTransport router e.1 (some e.2)
        else c.transportHeap.get? t
  | [], c, hfresh, t => by
      split
      · rename_i h
        exact hfresh t h
      · rfl
  | e :: edges, c, hfresh, t => by
      have ih := requestAll_heap router edges
        (TransportAllocator.request c router e.1 (some e.2))
        (fun t ht => by
          have hlt : c.transportIdGen < t := ht
          rw [transportHeap_request, if_neg (Nat.ne_of_gt hlt)]
          exact hfresh t (Nat.le_of_lt hlt)) t
      have hgen : (TransportAllocator.request c router e.1
        (some e.2)).transportIdGen = c.transportIdGen + 1 := rfl
      rw [hgen, transportHeap_request] at ih
      refine Eq.trans ih ?_
      rcases Nat.lt_trichotomy t c.transportIdGen with h | h | h
      · rw [if_neg (Nat.not_le.mpr (Nat.lt_succ_of_lt h)),
          if_neg (Nat.ne_of_lt h), if_neg (Nat.not_le.mpr h)]
      · rw [h, if_neg (Nat.not_succ_le_self _), if_pos rfl,
          if_pos (Nat.le_refl _), Nat.sub_self]
        rfl
      · obtain ⟨k, rfl⟩ := Nat.exists_eq_add_of_lt h
        rw [if_pos (Nat.succ_le_of_lt h), if_pos (Nat.le_of_lt h)]
        have h₁ : c.transportIdGen + k + 1 - (c.transportIdGen + 1) = k := by
          rw [Nat.add_sub_add_right, Nat.add_sub_cancel_left]
        have h₂ : c.transportIdGen + k + 1 - c.transportIdGen = k + 1 := by
          rw [Nat.add_assoc, Nat.add_sub_cancel_left]
        rw [h₁, h₂, List.getElem?_cons_succ]

/-- What the requests of a list of edges publish. -/
theorem requestAll_published (router : RouterId) :
    ∀ (edges : List (MemberId × TransportId)) (c : Coord κ),
    (requestAll router c edges).routerIdGen = c.routerIdGen ∧
    (requestAll router c edges).transportIdGen
      = c.transportIdGen + edges.length ∧
    (requestAll router c edges).updateIdGen = c.updateIdGen ∧
    (requestAll router c edges).out
      = c.out ++ (List.range' c.transportIdGen edges.length).map
        fun t => .newWebRtcTransportRequest router t false
  | [], c => ⟨rfl, rfl, rfl, (List.append_nil _).symm⟩
  | e :: edges, c => by
      obtain ⟨hr, ht, hu, hout⟩ := requestAll_published router edges
        (TransportAllocator.request c router e.1 (some e.2))
      refine ⟨hr, ht.trans ?_, hu, hout.trans ?_⟩
      · rw [List.length_cons, Nat.add_comm edges.length, ← Nat.add_assoc]
        rfl
      · rw [List.length_cons, List.range'_succ, List.map_cons]
        exact List.append_assoc c.out [_] _

/-- `allocate` of a consumer, in a state grown from `c`. -/
theorem allocate_eq (h : Grown c d) (member : MemberId)
    {source : TransportId} (hs : source < c.transportIdGen) :
    TransportAllocator.allocate d router member (some source)
      = requestAll router d
        (if c.transports.has source then [(member, source)] else []) := by
  simp only [TransportAllocator.allocate]
  rw [h.has source hs]
  split <;> rfl

/-- One round of the `forEach` is the requests of `pairEdges`. -/
theorem allocatePair_eq (h : Grown c d) {x : MemberId} {p : TransportId}
    (hp : p < c.transportIdGen)
    (hq : ∀ m q, c.producerOf m = some q → q < c.transportIdGen)
    (other : MemberId) :
    MemberService.allocatePair router x p d other
      = requestAll router d (pairEdges c x p other) := by
  unfold MemberService.allocatePair pairEdges
  split
  · rfl
  · dsimp only
    rw [allocate_eq h other hp, requestAll_append]
    have h' : Grown c (requestAll router d
        (if c.transports.has p then [(other, p)] else [])) :=
      h.requestAll _
    rw [h'.memberHeap]
    show (match c.producerOf other with
      | none => _
      | some producer => _) = _
    split
    · rfl
    · rename_i q hpq
      exact allocate_eq h' x (hq other q hpq)

/-- The loop over the other members asks for the edges of the mesh, in order.
-/
theorem foldl_allocatePair_eq {x : MemberId} {p : TransportId}
    (hp : p < c.transportIdGen)
    (hq : ∀ m q, c.producerOf m = some q → q < c.transportIdGen) :
    ∀ (others : List MemberId) {d : Coord κ}, Grown c d →
      others.foldl (MemberService.allocatePair router x p) d
        = requestAll router d (others.flatMap (pairEdges c x p))
  | [], _, _ => rfl
  | other :: others, d, h => by
      rw [List.foldl_cons, List.flatMap_cons, requestAll_append,
        allocatePair_eq h hp hq]
      exact foldl_allocatePair_eq hp hq others (h.requestAll _)

end Mesh

/-- Storing the producer a member has already changes nothing. -/
theorem setProducer_eq {c : Coord κ} {m : MemberId} {p : TransportId}
    (h : c.producerOf m = some p) :
    c.memberHeap.modify m (fun M => { M with producer := some p })
      = c.memberHeap := by
  obtain ⟨M, hM, hp⟩ := Option.bind_eq_some_iff.mp h
  refine JsMap.modify_eq_self fun M' hM' => ?_
  cases hM.symm.trans hM'
  rw [← hp]

/-- **The mesh of a new member**: the continuation of its producer promise
requests the edges between it and the members of its space. -/
theorem allocateConsumers_eq {c : Coord κ} (hI : TransportWF c)
    {p : TransportId} {T : Transport} {uuid : Uuid}
    (hT : c.transportHeap.get? p = some T)
    (hn : T.consumesFromTransportId = none)
    (hu : c.spaceOf T.owningMember = some uuid)
    (hk : c.statusOf uuid ≠ none) :
    MemberService.allocateConsumers c p
      = requestAll T.owningRouter
        (c.emit (.consumersAllocated T.owningMember))
        (meshEdges c uuid T.owningMember p) := by
  have hprod := hI.isProducer p T hT hn
  obtain ⟨M, hM, hMu⟩ := Option.map_eq_some_iff.mp hu
  obtain ⟨st, hst⟩ := Option.ne_none_iff_exists'.mp hk
  obtain ⟨space, hs, -⟩ := Option.map_eq_some_iff.mp hst
  have hq : ∀ m q, c.producerOf m = some q → q < c.transportIdGen := by
    intro m q hq
    obtain ⟨M', hM', -⟩ := Option.bind_eq_some_iff.mp hq
    obtain ⟨q', T', hq', hT', -⟩ := hI.producer m M'.owningSpace
      (by rw [Coord.spaceOf, hM']; rfl)
    cases hq.symm.trans hq'
    exact hI.fresh q T' hT'
  unfold MemberService.allocateConsumers
  rw [hT]
  dsimp only
  rw [setProducer_eq hprod]
  have hspace : ((c.emit (.consumersAllocated T.owningMember)).memberHeap.get?
      T.owningMember).bind (fun m => (c.emit
        (.consumersAllocated T.owningMember)).spaces.get? m.owningSpace)
      = some space := by
    show (c.memberHeap.get? T.owningMember).bind _ = _
    rw [hM, Option.bind_some, hMu]
    exact hs
  rw [hspace]
  dsimp only
  refine (foldl_allocatePair_eq (c := c)
    (d := c.emit (.consumersAllocated T.owningMember)) (hI.fresh p T hT) hq
    space.members.keys ⟨rfl, fun _ _ => rfl, Nat.le_refl _⟩).trans ?_
  rw [meshEdges, Coord.membersOf, hs]
  rfl

/-! ## §4. A worker answers a transport request. -/

/-- The member a transport consumes from: `some none` for a producer, `none`
when the producing transport is gone from the table. -/
def Coord.consumesFromMember (c : Coord κ) (T : Transport) :
    Option (Option MemberId) :=
  match T.consumesFromTransportId with
  | none => some none
  | some s => (TransportAllocator.get c s).map fun S => some S.owningMember

/-- The update an allocated transport publishes. -/
def Coord.paramsEvents (c : Coord κ) (T : Transport)
    (source : Option MemberId) (options : Json) : List (Out κ) :=
  match c.routerOwner T.owningRouter with
  | none => []
  | some uuid =>
      if TransportAllocator.hasSpaceSubscribers c uuid then
        [.spaceUpdate uuid
          (.transportParamsEvent T.owningMember source options)]
      else []

/-- What publishing params emits, and nothing else. -/
theorem publishParams_eq {c : Coord κ} {T : Transport}
    (source : Option MemberId) (options : Json)
    (hs : (T.consumesFromTransportId.bind (TransportAllocator.get c)).map
      Transport.owningMember = source) :
    TransportAllocator.publishParams c T options
      = { c with out := c.out ++ c.paramsEvents T source options } := by
  subst hs
  unfold TransportAllocator.publishParams Coord.paramsEvents
    Coord.routerOwner
  cases c.routerHeap.get? T.owningRouter with
  | none => simp
  | some router =>
    dsimp only [Option.map_some]
    split
    · rfl
    · simp

/-- The stretch a worker's ack starts, in one record. -/
theorem onTransportAck_eq {c : Coord κ} {id : TransportId} {T : Transport}
    (options : Json) (hT : c.transportHeap.get? id = some T)
    (hne : T.consumesFromTransportId ≠ some id) :
    TransportAllocator.onTransportAck c id options = { c with
      transportRequests := c.transportRequests.delete id
      transportHeap := c.transportHeap.modify id fun t =>
        { t with status := .allocated, options := some options }
      memberHeap := match c.consumesFromMember T with
        | some (some b) => c.memberHeap.modify T.owningMember fun m =>
            { m with
              memberToConsumerMap := m.memberToConsumerMap.set b
                (if c.transports.has id then some id else none) }
        | _ => c.memberHeap
      tasks := c.tasks ++
        if T.consumesFromTransportId = none then [.producerAllocated id]
        else []
      out := c.out ++ .transportAllocated id ::
        match c.consumesFromMember T with
        | none => []
        | some source => c.paramsEvents T source options } := by
  -- a transport is no source of itself, so the ack leaves its source alone
  have hget : ∀ s, T.consumesFromTransportId = some s → ∀ d : Coord κ,
      d.transports = c.transports → d.transportHeap =
        (c.transportHeap.modify id fun t =>
          { t with status := .allocated, options := some options }) →
      TransportAllocator.get d s = TransportAllocator.get c s := by
    intro s hs d htr hheap
    have hsid : s ≠ id := by
      rintro rfl
      exact hne hs
    rw [TransportAllocator.get, TransportAllocator.get, htr, hheap,
      JsMap.get?_modify_of_ne _ _ hsid]
  unfold TransportAllocator.onTransportAck Coord.consumesFromMember
  rw [hT]
  dsimp only
  cases hs : T.consumesFromTransportId with
  | none =>
    refine (publishParams_eq none options (by rw [hs]; rfl)).trans ?_
    simp [Coord.defer, Coord.paramsEvents, Coord.routerOwner,
      TransportAllocator.hasSpaceSubscribers]
  | some s =>
    dsimp only
    rw [hget s hs]
    -- the two side goals: these fields were not touched
    rotate_left
    · rfl
    · rfl
    cases hS : TransportAllocator.get c s with
    | none => simp
    | some S =>
      dsimp only [Option.map_some]
      refine (publishParams_eq (some S.owningMember) options ?_).trans ?_
      · rw [hs, Option.bind_some, hget s hs, hS]
        · rfl
        · rfl
        · rfl
      simp [Coord.paramsEvents, Coord.routerOwner,
        TransportAllocator.hasSpaceSubscribers]

/-- The member a transport consumes from owns its source. -/
theorem consumesFromMember_eq_some {c : Coord κ} {T : Transport}
    {b : MemberId} (h : c.consumesFromMember T = some (some b)) :
    ∃ s S, T.consumesFromTransportId = some s ∧ s ∈ c.transports.keys ∧
      c.transportHeap.get? s = some S ∧ S.owningMember = b := by
  unfold Coord.consumesFromMember at h
  split at h
  · cases h
  · rename_i s hs
    obtain ⟨S, hget, hb⟩ := Option.map_eq_some_iff.mp h
    unfold TransportAllocator.get at hget
    split at hget
    · rename_i hin
      exact ⟨s, S, hs, JsMap.has_eq_true_iff_mem.mp hin, hget,
        Option.some.inj hb⟩
    · cases hget

/-- What an ack changes, table by table. -/
structure AckSpec (c c' : Coord κ) (id : TransportId) (T : Transport)
    (options : Json) : Prop where
  heap : ∀ t, c'.transportHeap.get? t
    = if t = id then
        some { T with status := .allocated, options := some options }
      else c.transportHeap.get? t
  requests : ∀ t, t ∈ c'.transportRequests.keys ↔
    t ≠ id ∧ t ∈ c.transportRequests.keys
  transports : c'.transports = c.transports
  producerOf : ∀ m, c'.producerOf m = c.producerOf m
  tasks : c'.tasks = c.tasks ++
    if T.consumesFromTransportId = none then [.producerAllocated id] else []
  /-- An entry is kept, unless it is the one the ack stores. -/
  map : ∀ m M b, c.memberHeap.get? m = some M → ∃ M',
    c'.memberHeap.get? m = some M' ∧
      if m = T.owningMember ∧ c.consumesFromMember T = some (some b) then
        M'.memberToConsumerMap.get? b
          = some (if c.transports.has id then some id else none)
      else M'.memberToConsumerMap.get? b = M.memberToConsumerMap.get? b

/-- **What a transport ack does.** -/
theorem onTransportAck_spec {c : Coord κ} {id : TransportId} {T : Transport}
    (options : Json) (hT : c.transportHeap.get? id = some T)
    (hne : T.consumesFromTransportId ≠ some id) :
    AckSpec c (TransportAllocator.onTransportAck c id options) id T
      options := by
  rw [onTransportAck_eq options hT hne]
  constructor
  case heap =>
    intro t
    simp only [JsMap.get?_modify]
    split
    · rw [hT]
      rfl
    · rfl
  case requests => exact fun t => JsMap.mem_keys_delete
  case transports => rfl
  case producerOf =>
    intro m
    simp only [Coord.producerOf]
    split
    · rw [JsMap.get?_modify]
      split
      · rename_i h
        subst h
        cases c.memberHeap.get? T.owningMember <;> rfl
      · rfl
    · rfl
  case tasks => rfl
  case map =>
    intro m M b hM
    cases hsrc : c.consumesFromMember T with
    | none => exact ⟨M, hM, by simp⟩
    | some source =>
      cases source with
      | none => exact ⟨M, hM, by simp⟩
      | some b' =>
        simp only [JsMap.get?_modify]
        by_cases hm : m = T.owningMember
        · subst hm
          refine ⟨_, by rw [if_pos rfl, hM]; rfl, ?_⟩
          dsimp only
          rw [JsMap.get?_set]
          by_cases hb : b = b'
          · subst hb
            simp
          · simp [hb, Ne.symm hb]
        · exact ⟨M, by rw [if_neg hm, hM], by simp [hm]⟩

/-! ## §5. Each effect keeps transports well formed. -/

section Effects

variable {c : Coord κ}

/-- By induction on the edges: the transports stay in order. -/
theorem requestAll_wf {router : RouterId} :
    ∀ (edges : List (MemberId × TransportId)) {c : Coord κ},
      TransportWF c → (∀ e ∈ edges, EdgeOK c router e) →
      TransportWF (requestAll router c edges)
  | [], _, hI, _ => hI
  | e :: edges, _, hI, he =>
      requestAll_wf edges
        (hI.requestConsumer (he e List.mem_cons_self))
        fun e' h => (he e' (List.mem_cons_of_mem _ h)).request hI _ _

/-- The edges of a mesh join members of one space. -/
theorem meshEdges_ok (hI : TransportWF c) (hm : MemberWF c)
    {p : TransportId} {T : Transport} {uuid : Uuid}
    (hT : c.transportHeap.get? p = some T)
    (hn : T.consumesFromTransportId = none)
    (hu : c.spaceOf T.owningMember = some uuid) :
    ∀ e ∈ meshEdges c uuid T.owningMember p, EdgeOK c T.owningRouter e := by
  intro e he
  obtain ⟨other, hother, he⟩ := List.mem_flatMap.mp he
  have hsp := ((hm.mem uuid other).mp hother).2
  obtain ⟨uuid', hs', hr⟩ := hI.owned p T hT
  cases hu.symm.trans hs'
  unfold pairEdges at he
  split at he
  · cases he
  · rename_i hne
    rcases List.mem_append.mp he with he | he
    · split at he
      · cases List.mem_singleton.mp he
        exact ⟨uuid, T, hsp, hr, hT, hn, Ne.symm hne, hu⟩
      · cases he
    · split at he
      · cases he
      · rename_i q hq
        split at he
        · cases List.mem_singleton.mp he
          obtain ⟨q', Q, hq', hQ, hown, hQn⟩ := hI.producer other uuid hsp
          cases hq.symm.trans hq'
          exact ⟨uuid, Q, hu, hr, hQ, hQn, by rw [hown]; exact hne,
            by rw [hown]; exact hsp⟩
        · cases he

/-- So does allocating or connecting a transport. -/
theorem TransportWF.setStatus (hI : TransportWF c) (id : TransportId)
    {f : Transport → Transport}
    (hown : ∀ T, (f T).owningMember = T.owningMember)
    (hrouter : ∀ T, (f T).owningRouter = T.owningRouter)
    (hsource : ∀ T,
      (f T).consumesFromTransportId = T.consumesFromTransportId)
    (hst : ∀ T, (f T).status ≠ .unallocated)
    (hid : id ∉ c.transportRequests.keys) :
    TransportWF
      { c with transportHeap := c.transportHeap.modify id f } := by
  -- a record after the change comes from one before it, and back
  have hback : ∀ t T', (c.transportHeap.modify id f).get? t = some T' →
      ∃ T, c.transportHeap.get? t = some T ∧
        T'.owningMember = T.owningMember ∧
        T'.owningRouter = T.owningRouter ∧
        T'.consumesFromTransportId = T.consumesFromTransportId := by
    intro t T' h
    rcases JsMap.get?_modify_cases h with ⟨rfl, T, hT, rfl⟩ | ⟨-, h⟩
    · exact ⟨T, hT, hown T, hrouter T, hsource T⟩
    · exact ⟨T', h, rfl, rfl, rfl⟩
  have hforth : ∀ t T, c.transportHeap.get? t = some T →
      ∃ T', (c.transportHeap.modify id f).get? t = some T' ∧
        T'.owningMember = T.owningMember ∧
        T'.owningRouter = T.owningRouter ∧
        T'.consumesFromTransportId = T.consumesFromTransportId ∧
        (T.status ≠ .unallocated → T'.status ≠ .unallocated) ∧
        (t ∈ c.transportRequests.keys → T'.status = T.status) := by
    intro t T h
    rw [JsMap.get?_modify]
    split
    · rename_i heq
      subst heq
      exact ⟨f T, by rw [h]; rfl, hown T, hrouter T, hsource T,
        fun _ => hst T, fun hm => absurd hm hid⟩
    · exact ⟨T, h, rfl, rfl, rfl, fun h => h, fun _ => rfl⟩
  constructor
  case fresh =>
    intro t T' h
    obtain ⟨T, hT, -⟩ := hback t T' h
    exact hI.fresh t T hT
  case stored =>
    intro t ht
    obtain ⟨T, hT⟩ := hI.stored t ht
    obtain ⟨T', hT', -⟩ := hforth t T hT
    exact ⟨T', hT'⟩
  case requested =>
    intro t ht
    obtain ⟨T, hT, hu⟩ := hI.requested t ht
    obtain ⟨T', hT', -, -, -, -, hkeep⟩ := hforth t T hT
    exact ⟨T', hT', (hkeep ht).trans hu⟩
  case produced =>
    intro t ht
    obtain ⟨T, hT, hn⟩ := hI.produced t ht
    obtain ⟨T', hT', -, -, hs, -⟩ := hforth t T hT
    exact ⟨T', hT', hs.trans hn⟩
  case owned =>
    intro t T' h
    obtain ⟨T, hT, ho, hr, -⟩ := hback t T' h
    rw [ho, hr]
    exact hI.owned t T hT
  case producer =>
    intro m uuid hm
    obtain ⟨p, T, hp, hT, ho, hn⟩ := hI.producer m uuid hm
    obtain ⟨T', hT', ho', -, hs, -⟩ := hforth p T hT
    exact ⟨p, T', hp, hT', ho'.trans ho, hs.trans hn⟩
  case isProducer =>
    intro t T' h hn
    obtain ⟨T, hT, ho, -, hs⟩ := hback t T' h
    rw [ho]
    exact hI.isProducer t T hT (hs.symm.trans hn)
  case source =>
    intro t T' s h hs
    obtain ⟨T, hT, ho, -, hs'⟩ := hback t T' h
    obtain ⟨S, hS, hn, hne, hsp⟩ := hI.source t T s hT (hs'.symm.trans hs)
    obtain ⟨S', hS', hoS, -, hsS, -⟩ := hforth s S hS
    refine ⟨S', hS', hsS.trans hn, ?_, ?_⟩
    · rw [hoS, ho]
      exact hne
    · rw [hoS, ho]
      exact hsp
  case consumers =>
    intro m M b t hM hb
    obtain ⟨T, s, S, hT, ho, hst', hs, hS, hb'⟩ :=
      hI.consumers m M b t hM hb
    obtain ⟨T', hT', ho', -, hs', hal, -⟩ := hforth t T hT
    obtain ⟨S', hS', hoS, -⟩ := hforth s S hS
    exact ⟨T', s, S', hT', ho'.trans ho, hal hst', hs'.trans hs, hS',
      hoS.trans hb'⟩
  case onRouter =>
    intro r R t hR ht
    obtain ⟨T, hT, hr⟩ := hI.onRouter r R t hR ht
    obtain ⟨T', hT', -, hr', -⟩ := hforth t T hT
    exact ⟨T', hT', hr'.trans hr⟩
  case updated =>
    intro n r hn
    obtain ⟨T, hT, hu⟩ := hI.updated n r hn
    obtain ⟨T', hT', -, -, -, hal, -⟩ := hforth _ T hT
    exact ⟨T', hT', hal hu⟩

/-- Storing an allocated consumer in its owner's map. -/
theorem TransportWF.setConsumer (hI : TransportWF c) {m b : MemberId}
    {entry : Option TransportId}
    (he : ∀ t, entry = some t → ∃ T s S,
      c.transportHeap.get? t = some T ∧ T.owningMember = m ∧
      T.status ≠ .unallocated ∧ T.consumesFromTransportId = some s ∧
      c.transportHeap.get? s = some S ∧ S.owningMember = b) :
    TransportWF { c with
      memberHeap := c.memberHeap.modify m fun M =>
        { M with
          memberToConsumerMap := M.memberToConsumerMap.set b entry } } := by
  -- the entry changes neither the space nor the producer of a member
  have hspace : ∀ m', ((c.memberHeap.modify m fun M =>
      { M with
        memberToConsumerMap := M.memberToConsumerMap.set b entry }).get?
        m').map Member.owningSpace = c.spaceOf m' := by
    intro m'
    rw [JsMap.get?_modify, Coord.spaceOf]
    split
    · rename_i h
      subst h
      cases c.memberHeap.get? m' <;> rfl
    · rfl
  -- as for the space: the producer is another field
  have hprod : ∀ m', ((c.memberHeap.modify m fun M =>
      { M with
        memberToConsumerMap := M.memberToConsumerMap.set b entry }).get?
        m').bind Member.producer = c.producerOf m' := by
    intro m'
    rw [JsMap.get?_modify, Coord.producerOf]
    split
    · rename_i h
      subst h
      cases c.memberHeap.get? m' <;> rfl
    · rfl
  refine { hI with owned := ?_, producer := ?_, isProducer := ?_,
                   source := ?_, consumers := ?_ }
  · intro t T hT
    obtain ⟨uuid, hs, hr⟩ := hI.owned t T hT
    exact ⟨uuid, (hspace _).trans hs, hr⟩
  · intro m' uuid hm
    obtain ⟨p, T, hp, hrest⟩ := hI.producer m' uuid ((hspace m').symm.trans hm)
    exact ⟨p, T, (hprod m').trans hp, hrest⟩
  · exact fun t T hT hn => (hprod _).trans (hI.isProducer t T hT hn)
  · intro t T s hT hs
    obtain ⟨S, hS, hn, hne, hsp⟩ := hI.source t T s hT hs
    exact ⟨S, hS, hn, hne, (hspace _).trans (hsp.trans (hspace _).symm)⟩
  -- the entries of `m` may be the new one; those of others are old
  · intro m' M' b' t hM' hmap
    have hM' : (c.memberHeap.modify m fun M =>
      { M with
        memberToConsumerMap := M.memberToConsumerMap.set b entry }).get? m'
          = some M' := hM'
    rcases JsMap.get?_modify_cases hM' with ⟨rfl, M, hM, rfl⟩ | ⟨-, hM'⟩
    · have hb' : (M.memberToConsumerMap.set b entry).get? b'
        = some (some t) := hmap
      rw [JsMap.get?_set] at hb'
      split at hb'
      · rename_i heq
        subst heq
        exact he t (Option.some.inj hb')
      · exact hI.consumers m' M b' t hM hb'
    · exact hI.consumers m' M' b' t hM' hmap

/-- The transports a member record refers to are its own. -/
theorem TransportWF.owner_of_member (hI : TransportWF c) {m : MemberId}
    {M : Member} {t : TransportId} {T : Transport}
    (hM : c.memberHeap.get? m = some M)
    (ht : M.producer = some t ∨
      ∃ b, M.memberToConsumerMap.get? b = some (some t))
    (hT : c.transportHeap.get? t = some T) : T.owningMember = m := by
  rcases ht with ht | ⟨b, hb⟩
  · obtain ⟨p, P, hp, hP, ho, -⟩ := hI.producer m M.owningSpace
      (by rw [Coord.spaceOf, hM]; rfl)
    rw [Coord.producerOf, hM, Option.bind_some, ht] at hp
    cases hp
    cases hT.symm.trans hP
    exact ho
  · obtain ⟨T', s, S, hT', ho, -⟩ := hI.consumers m M b t hM hb
    cases hT.symm.trans hT'
    exact ho

/-- No transport consumes from itself. -/
theorem TransportWF.source_ne (hI : TransportWF c) {id : TransportId}
    {T : Transport} (hT : c.transportHeap.get? id = some T) :
    T.consumesFromTransportId ≠ some id := by
  intro h
  obtain ⟨S, hS, hn, -⟩ := hI.source id T id hT h
  cases hT.symm.trans hS
  rw [h] at hn
  cases hn

/-- A worker acks the request of transport `id`. -/
theorem TransportWF.transportAck (hI : TransportWF c) {id : TransportId}
    (options : Json) (hid : id ∈ c.transportRequests.keys) :
    TransportWF (TransportAllocator.onTransportAck c id options) := by
  obtain ⟨T, hT, -⟩ := hI.requested id hid
  have hne := hI.source_ne hT
  rw [onTransportAck_eq options hT hne]
  -- the request is gone, then the record is allocated
  have h₁ : TransportWF
      { c with transportRequests := c.transportRequests.delete id } := by
    refine TransportFrame.wf ?_ hI
    exact .of_eq rfl rfl rfl rfl (fun _ h => h)
      (fun _ h => (JsMap.mem_keys_delete.mp h).2) (fun _ h => h)
      fun _ _ h => h
  have h₂ := h₁.setStatus id
    (f := fun t => { t with status := .allocated, options := some options })
    (fun _ => rfl) (fun _ => rfl) (fun _ => rfl) (fun _ => by simp)
    (fun h => (JsMap.mem_keys_delete.mp h).1 rfl)
  have hT' : (c.transportHeap.modify id fun t =>
      { t with status := .allocated, options := some options }).get? id
        = some { T with status := .allocated, options := some options } := by
    rw [JsMap.get?_modify_self, hT]
    rfl
  -- a continuation for a producer, an entry for a consumer
  have hdone : ∀ d : Coord κ, TransportWF d → d.transportHeap.get? id
      = some { T with status := .allocated, options := some options } →
      ∀ out, TransportWF { d with
        tasks := d.tasks ++
          if T.consumesFromTransportId = none then [.producerAllocated id]
          else []
        out := out } := by
    intro d hd hdT out
    refine { hd with produced := fun t ht => ?_ }
    rcases List.mem_append.mp ht with ht | ht
    · exact hd.produced t ht
    · split at ht
      · rename_i hn
        cases List.mem_singleton.mp ht
        exact ⟨_, hdT, hn⟩
      · cases ht
  split
  · rename_i b hb
    obtain ⟨s, hs, hb⟩ : ∃ s, T.consumesFromTransportId = some s ∧
        (TransportAllocator.get c s).map (fun S => some S.owningMember)
          = some (some b) := by
      unfold Coord.consumesFromMember at hb
      split at hb
      · cases hb
      · rename_i s hs
        exact ⟨s, hs, hb⟩
    obtain ⟨S, hget, hSb⟩ := Option.map_eq_some_iff.mp hb
    have hS : c.transportHeap.get? s = some S := by
      unfold TransportAllocator.get at hget
      split at hget
      · exact hget
      · cases hget
    have hsid : s ≠ id := by
      rintro rfl
      exact hne hs
    refine hdone _ (h₂.setConsumer (m := T.owningMember) (b := b)
      fun t ht => ?_) hT' _
    split at ht
    · cases ht
      refine ⟨_, s, S, hT', rfl, by simp, hs, ?_, Option.some.inj hSb⟩
      show (c.transportHeap.modify id _).get? s = some S
      rw [JsMap.get?_modify_of_ne _ _ hsid, hS]
    · cases ht
  · exact hdone _ h₂ hT' _

/-- The record of a member that was just added, with its producer. -/
def joinedMember (uuid : Uuid) (data : MemberData) (state : MemberState)
    (p : TransportId) : Member :=
  { owningSpace := uuid, data, state, producer := some p,
    memberToConsumerMap := ∅ }

/-- What a new member changes, table by table. -/
structure JoinSpec (c c' : Coord κ) (uuid : Uuid) (data : MemberData)
    (state : MemberState) (r : RouterId) : Prop where
  heap : ∀ t, c'.transportHeap.get? t
    = if t = c.transportIdGen then
        some (requestedTransport r c.memberIdGen none)
      else c.transportHeap.get? t
  memberHeap : ∀ m, c'.memberHeap.get? m
    = if m = c.memberIdGen then
        some (joinedMember uuid data state c.transportIdGen)
      else c.memberHeap.get? m
  transports : ∀ t, t ∈ c'.transports.keys ↔
    t = c.transportIdGen ∨ t ∈ c.transports.keys
  requests : ∀ t, t ∈ c'.transportRequests.keys ↔
    t = c.transportIdGen ∨ t ∈ c.transportRequests.keys

namespace JoinSpec

variable {c' : Coord κ} {uuid : Uuid} {data : MemberData}
  {state : MemberState} {r : RouterId}

theorem spaceOf (h : JoinSpec c c' uuid data state r) (m : MemberId) :
    c'.spaceOf m
      = if m = c.memberIdGen then some uuid else c.spaceOf m := by
  rw [Coord.spaceOf, h.memberHeap]
  split <;> rfl

theorem producerOf (h : JoinSpec c c' uuid data state r) (m : MemberId) :
    c'.producerOf m = if m = c.memberIdGen then some c.transportIdGen
      else c.producerOf m := by
  rw [Coord.producerOf, h.memberHeap]
  split <;> rfl

/-- A transport known before the join is the same after it. -/
theorem heap_old (h : JoinSpec c c' uuid data state r) (hI : TransportWF c)
    {t : TransportId} {T : Transport}
    (hT : c.transportHeap.get? t = some T) :
    c'.transportHeap.get? t = some T := by
  rw [h.heap, if_neg, hT]
  rintro rfl
  exact Nat.lt_irrefl _ (hI.fresh _ T hT)

theorem spaceOf_old (h : JoinSpec c c' uuid data state r) (hm : MemberWF c)
    {m : MemberId} {u : Uuid} (hu : c.spaceOf m = some u) :
    m ≠ c.memberIdGen ∧ c'.spaceOf m = some u := by
  have hne : m ≠ c.memberIdGen := by
    rintro rfl
    rw [hm.spaceOf_new] at hu
    cases hu
  exact ⟨hne, by rw [h.spaceOf, if_neg hne, hu]⟩

end JoinSpec

/-- **What a join does**: the member, its producer transport, and the request
for it. -/
theorem join_spec (c : Coord κ) (uuid : Uuid) (data : MemberData)
    (state : MemberState) (r : RouterId) :
    JoinSpec c (TransportAllocator.request
      (MemberService.add c data state uuid) r c.memberIdGen none) uuid data
      state r where
  heap := transportHeap_request none
  memberHeap m := by
    simp only [TransportAllocator.request, MemberService.add,
      Option.isNone_none, if_true, JsMap.get?_modify, JsMap.get?_set]
    split <;> rfl
  transports _ := JsSet.mem_keys_add
  requests _ := JsSet.mem_keys_add

/-- So does a new member with its producer request. -/
theorem TransportWF.join (hI : TransportWF c) (hm : MemberWF c)
    (data : MemberData) (state : MemberState) {uuid : Uuid} {r : RouterId}
    (hr : c.routerOwner r = some uuid) :
    TransportWF (TransportAllocator.request
      (MemberService.add c data state uuid) r c.memberIdGen none) := by
  have hspec := join_spec c uuid data state r
  generalize hc' : TransportAllocator.request
    (MemberService.add c data state uuid) r c.memberIdGen none = c'
    at hspec ⊢
  -- the router belongs to the space, before and after
  have hrouter : ∀ r', c'.routerOwner r' = c.routerOwner r' := by
    intro r'
    subst hc'
    exact routerOwner_request none r'
  have hold := fun t T => hspec.heap_old hI (t := t) (T := T)
  have hspaceOld := fun m u => hspec.spaceOf_old hm (m := m) (u := u)
  -- the one new transport is the producer of the new member
  have hcases : ∀ t T, c'.transportHeap.get? t = some T →
      t = c.transportIdGen ∧ T = requestedTransport r c.memberIdGen none ∨
        c.transportHeap.get? t = some T := by
    intro t T h
    rw [hspec.heap] at h
    split at h
    · rename_i ht
      exact .inl ⟨ht, (Option.some.inj h).symm⟩
    · exact .inr h
  -- clause by clause: the new member and its producer, or what was there
  constructor
  case fresh =>
    intro t T h
    have hgen : c'.transportIdGen = c.transportIdGen + 1 := by
      subst hc'
      rfl
    rw [hgen]
    rcases hcases t T h with ⟨rfl, -⟩ | h
    · exact Nat.lt_succ_self _
    · exact Nat.lt_succ_of_lt (hI.fresh t T h)
  case stored =>
    intro t ht
    rcases (hspec.transports t).mp ht with rfl | ht
    · exact ⟨_, by rw [hspec.heap, if_pos rfl]⟩
    · obtain ⟨T, hT⟩ := hI.stored t ht
      exact ⟨T, hold t T hT⟩
  case requested =>
    intro t ht
    rcases (hspec.requests t).mp ht with rfl | ht
    · exact ⟨_, by rw [hspec.heap, if_pos rfl], rfl⟩
    · obtain ⟨T, hT, hst⟩ := hI.requested t ht
      exact ⟨T, hold t T hT, hst⟩
  case produced =>
    intro t ht
    have ht : .producerAllocated t ∈ c.tasks := by
      subst hc'
      exact ht
    obtain ⟨T, hT, hn⟩ := hI.produced t ht
    exact ⟨T, hold t T hT, hn⟩
  case owned =>
    intro t T h
    rw [hrouter]
    rcases hcases t T h with ⟨-, rfl⟩ | h
    · exact ⟨uuid, by rw [hspec.spaceOf]; exact if_pos rfl, hr⟩
    · obtain ⟨u, hs, hr'⟩ := hI.owned t T h
      exact ⟨u, (hspaceOld _ u hs).2, hr'⟩
  case producer =>
    intro m u hm'
    rw [hspec.spaceOf] at hm'
    rw [hspec.producerOf]
    split at hm'
    · rename_i heq
      exact ⟨c.transportIdGen, requestedTransport r c.memberIdGen none,
        if_pos heq, by rw [hspec.heap, if_pos rfl], heq.symm, rfl⟩
    -- an old member keeps its producer
    · rename_i hne
      obtain ⟨p, T, hp, hT, hrest⟩ := hI.producer m u hm'
      exact ⟨p, T, by rw [if_neg hne, hp], hold p T hT, hrest⟩
  case isProducer =>
    intro t T h hn
    rw [hspec.producerOf]
    rcases hcases t T h with ⟨rfl, rfl⟩ | h
    · exact if_pos rfl
    · obtain ⟨u, hs, -⟩ := hI.owned t T h
      rw [if_neg (hspaceOld _ u hs).1, hI.isProducer t T h hn]
  case source =>
    intro t T s h hs
    rcases hcases t T h with ⟨-, rfl⟩ | h
    · cases hs
    · obtain ⟨S, hS, hn, hne, hsp⟩ := hI.source t T s h hs
      obtain ⟨u, hu, -⟩ := hI.owned t T h
      exact ⟨S, hold s S hS, hn, hne, by
        rw [(hspaceOld _ u hu).2, (hspaceOld _ u (hsp.trans hu)).2]⟩
  case consumers =>
    intro m M b t hM hb
    rw [hspec.memberHeap] at hM
    split at hM
    · cases hM
      cases hb
    · obtain ⟨T, s, S, hT, ho, hst, hs, hS, hb⟩ :=
        hI.consumers m M b t hM hb
      exact ⟨T, s, S, hold t T hT, ho, hst, hs, hold s S hS, hb⟩
  case onRouter =>
    intro r' R t hR ht
    have hR : (c.routerHeap.modify r fun R =>
        { R with
          transports := JsSet.add R.transports c.transportIdGen }).get? r'
        = some R := by
      subst hc'
      exact hR
    -- the router lists the new transport behind the old ones
    rcases JsMap.get?_modify_cases hR with ⟨rfl, R₀, hR₀, rfl⟩ | ⟨-, hR⟩
    · rcases JsSet.mem_keys_add.mp ht with rfl | ht
      · exact ⟨_, by rw [hspec.heap, if_pos rfl], rfl⟩
      · obtain ⟨T, hT, hown⟩ := hI.onRouter r' R₀ t hR₀ ht
        exact ⟨T, hold t T hT, hown⟩
    · obtain ⟨T, hT, hown⟩ := hI.onRouter r' R t hR ht
      exact ⟨T, hold t T hT, hown⟩
  case updated =>
    intro n u hn
    have hn : c.updateRequests.get? n = some u := by
      subst hc'
      exact hn
    obtain ⟨T, hT, hst⟩ := hI.updated n u hn
    exact ⟨T, hold _ T hT, hst⟩

end Effects

/-! ## §6. Every reachable state. -/

section Reachable

variable [Callback κ]

omit [Callback κ] in
/-- Continuations an answer leaves behind allocate nothing. -/
theorem produced_mem_defer {c : Coord κ} {t : Task κ} {p : TransportId}
    (ht : ∀ p, t ≠ .producerAllocated p)
    (h : .producerAllocated p ∈ (c.defer t).tasks) :
    .producerAllocated p ∈ c.tasks := by
  rcases List.mem_append.mp h with h | h
  · exact h
  · exact absurd (List.mem_singleton.mp h).symm (ht p)

omit [Callback κ] in
theorem answers_ne_produced {t : Task κ} (ht : t.answers = true)
    (p : TransportId) : t ≠ .producerAllocated p := by
  rintro rfl
  cases ht

/-- A nack of an update only says so. -/
theorem answerNack_eq (c : Coord κ) (r : UpdateRequest κ)
    (message : String) : ∃ l,
    SpaceUpdateDispatcher.answerNack c r message
        = { c with out := c.out ++ l } ∧ ∀ o ∈ l, o.replies = true := by
  unfold SpaceUpdateDispatcher.answerNack Coord.nackCatch
  split
  · exact ⟨[_], rfl, by simp [Out.replies]⟩
  · rename_i e _
    refine ⟨[.nack r.cb (SpaceUpdateDispatcher.nackPrefix r.update ++ message),
      .unhandledRejection e], ?_, by simp [Out.replies]⟩
    simp [Coord.emit]

/-- An ack says so, and what follows it may emit more. -/
theorem answerAck_eq (c : Coord κ) (r : UpdateRequest κ) (resp : Response)
    {k : Coord κ → Coord κ} (hk : ∀ c, ∃ l,
      k c = { c with out := c.out ++ l } ∧ ∀ o ∈ l, o.answers = true) :
    ∃ l, SpaceUpdateDispatcher.answerAck c r resp k
        = { c with out := c.out ++ l } ∧ ∀ o ∈ l, o.answers = true := by
  have hack : ∀ {l : List (Out κ)}, (∀ o ∈ l, o.answers = true) →
      ∀ o ∈ .ack r.cb resp :: l, o.answers = true := by
    intro l hl o ho
    rcases List.mem_cons.mp ho with rfl | ho
    · rfl
    · exact hl o ho
  unfold SpaceUpdateDispatcher.answerAck
  dsimp only
  split
  · obtain ⟨l, h, hl⟩ := hk (c.emit (.ack r.cb resp))
    exact ⟨_ :: l, by rw [h, Coord.emit, List.append_assoc]; rfl, hack hl⟩
  · obtain ⟨l, h, hl⟩ := answerNack_eq (c.emit (.ack r.cb resp)) r _
    exact ⟨_ :: l, by rw [h, Coord.emit, List.append_assoc]; rfl,
      hack fun o ho => Out.answers_of_replies (hl o ho)⟩

/-- An update nack touches the request and the outbox. -/
theorem onUpdateNack_eq (c : Coord κ) (id : Nat) (r : UpdateRequest κ)
    (message : String) : ∃ l,
    SpaceUpdateDispatcher.onUpdateNack c id r message
        = { c with
            updateRequests := c.updateRequests.delete id
            out := c.out ++ l } ∧
      ∀ o ∈ l, o.replies = true := by
  unfold SpaceUpdateDispatcher.onUpdateNack
  exact answerNack_eq _ r message

/-- An update ack touches the request, at most one status, and the
outbox. -/
theorem onUpdateAck_eq (c : Coord κ) (id : Nat) (r : UpdateRequest κ)
    (resp : TransportUpdateAck) : ∃ transportHeap l,
    SpaceUpdateDispatcher.onUpdateAck c id r resp
        = { c with
            updateRequests := c.updateRequests.delete id
            transportHeap
            out := c.out ++ l } ∧
      (∀ o ∈ l, o.answers = true) ∧
      (transportHeap = c.transportHeap ∨
        transportHeap = c.transportHeap.modify r.transport fun t =>
          { t with status := .connected }) := by
  -- all branches but the first leave the records alone
  have same : ∀ (resp : Response) (k : Coord κ → Coord κ),
      (∀ c, ∃ l, k c = { c with out := c.out ++ l } ∧
        ∀ o ∈ l, o.answers = true) → ∃ transportHeap l,
        SpaceUpdateDispatcher.answerAck
            { c with updateRequests := c.updateRequests.delete id } r resp k
          = { c with
              updateRequests := c.updateRequests.delete id
              transportHeap
              out := c.out ++ l } ∧
        (∀ o ∈ l, o.answers = true) ∧
        (transportHeap = c.transportHeap ∨
          transportHeap = c.transportHeap.modify r.transport fun t =>
            { t with status := .connected }) := by
    intro resp k hk
    obtain ⟨l, h, hl⟩ := answerAck_eq
      { c with updateRequests := c.updateRequests.delete id } r resp hk
    exact ⟨_, l, h, hl, .inl rfl⟩
  have none : ∀ c : Coord κ, ∃ l, c = { c with out := c.out ++ l } ∧
      ∀ o ∈ l, o.answers = true := fun c => ⟨[], by simp, by simp⟩
  unfold SpaceUpdateDispatcher.onUpdateAck
  dsimp only
  split
  · obtain ⟨l, h, hl⟩ := answerAck_eq { c with
      updateRequests := c.updateRequests.delete id
      transportHeap := c.transportHeap.modify r.transport fun t =>
        { t with status := .connected } } r .void (k := fun c => c) none
    exact ⟨_, l, h, hl, .inr rfl⟩
  · refine same _ _ fun c => ?_
    split
    · exact ⟨[_], rfl, by simp [Out.answers]⟩
    · exact none c
  · exact same _ _ none
  · exact same _ _ none

/-- An update ack may connect a transport, and keeps them in order. -/
theorem TransportWF.updateAck {c : Coord κ} (hI : TransportWF c) {id : Nat}
    {r : UpdateRequest κ} (resp : TransportUpdateAck)
    (h : c.updateRequests.get? id = some r) :
    TransportWF (SpaceUpdateDispatcher.onUpdateAck c id r resp) := by
  have hdel : TransportWF
      { c with updateRequests := c.updateRequests.delete id } :=
    { hI with
      updated := fun n r h => hI.updated n r (JsMap.get?_of_get?_delete h) }
  obtain ⟨heap, l, heq, -, hheap⟩ := onUpdateAck_eq c id r resp
  rw [heq]
  rcases hheap with rfl | rfl
  · exact { hdel with }
  · have hconn := hdel.setStatus r.transport
      (f := fun t => { t with status := .connected })
      (fun _ => rfl) (fun _ => rfl) (fun _ => rfl) (fun _ => by simp) ?_
    · exact { hconn with }
    -- a transport with an update under way is allocated
    intro hm
    obtain ⟨T, hT, hst⟩ := hI.updated id r h
    obtain ⟨T', hT', hst'⟩ := hI.requested _ hm
    cases hT.symm.trans hT'
    exact hst hst'

omit [Callback κ] in
theorem TransportWF.without {c : Coord κ} (hI : TransportWF c) (i : Nat) :
    TransportWF (c.without i) :=
  { hI with
    produced := fun t h => hI.produced t (List.mem_of_mem_eraseIdx h) }

omit [Callback κ] in
/-- The mesh continuation, in normal form. -/
theorem mesh_eq {c : Coord κ} (hI : TransportWF c) (hm : MemberWF c)
    {i : Nat} {p : TransportId}
    (ht : c.tasks[i]? = some (.producerAllocated p)) :
    ∃ T uuid, c.transportHeap.get? p = some T ∧
      T.consumesFromTransportId = none ∧
      c.spaceOf T.owningMember = some uuid ∧
      MemberService.allocateConsumers (c.without i) p
        = requestAll T.owningRouter
          ((c.without i).emit (.consumersAllocated T.owningMember))
          (meshEdges c uuid T.owningMember p) := by
  obtain ⟨T, hT, hn⟩ := hI.produced p (List.mem_of_getElem? ht)
  obtain ⟨uuid, hu, -⟩ := hI.owned p T hT
  exact ⟨T, uuid, hT, hn, hu,
    allocateConsumers_eq (hI.without i) hT hn hu (hm.known _ _ hu)⟩

/-- The media layer keeps transports well formed. -/
theorem transportWF_media {base c c' : Coord κ} {a : Action κ}
    (h : MediaEffect base a c c') (hmb : MemberWF base)
    (hb : TransportWF base) (hI : TransportWF c) : TransportWF c' := by
  cases h with
  | emit => exact { hI with }
  | answer _ ht =>
      exact { hI with
        produced := fun t h => hI.produced t
          (produced_mem_defer (answers_ne_produced ht) h) }
  | dropTransport =>
      refine TransportFrame.wf ?_ hI
      exact .of_eq rfl rfl rfl rfl (fun _ h => (JsMap.mem_keys_delete.mp h).2)
        (fun _ h => h) (fun _ h => h) fun _ _ h => h
  | mesh ha ht =>
      obtain ⟨T, uuid, hT, hn, hu, heq⟩ := mesh_eq hb hmb ht
      rw [heq]
      refine requestAll_wf _ { hI.without _ with } fun e he => ?_
      obtain ⟨uuid', S, hrest⟩ := (meshEdges_ok hb hmb hT hn hu e he).edge
      exact ⟨uuid', S, hrest⟩
  | transportAck ha h => exact hI.transportAck _ h
  | transportNack =>
      refine TransportFrame.wf ?_ hI
      exact .of_eq rfl rfl rfl rfl (fun _ h => h)
        (fun _ h => (JsMap.mem_keys_delete.mp h).2) (fun _ h => h)
        fun _ _ h => h
  | publishUpdate update uuid memberId cb ht hst =>
      refine { hI with updated := fun n r hn => ?_ }
      have hn : (base.updateRequests.set base.updateIdGen _).get? n
        = some r := hn
      rw [JsMap.get?_set] at hn
      split at hn
      · cases hn
        exact ⟨_, ht, hst⟩
      · exact hI.updated n r hn
  | updateAck ha h => exact hI.updateAck _ h
  | @updateNack id r message =>
      obtain ⟨l, heq, -⟩ := onUpdateNack_eq base id r message
      rw [heq]
      exact { hI with
        updated := fun n r h =>
          hI.updated n r (JsMap.get?_of_get?_delete h) }

omit [Callback κ] in
/-- `RouterAllocator.remove` drops the transports of that router. -/
theorem remove_transports {c : Coord κ} {r : RouterId} {t : TransportId} :
    t ∈ (RouterAllocator.remove c r).transports.keys ↔
      t ∈ c.transports.keys ∧ ¬ (r ∈ c.routers.keys ∧
        ∃ R, c.routerHeap.get? r = some R ∧ t ∈ R.transports.keys) := by
  unfold RouterAllocator.remove
  split
  · rename_i hr
    rw [JsMap.has_eq_true_iff_mem] at hr
    split
    · rename_i hn
      simp [hn]
    · rename_i R hR
      rw [JsMap.mem_keys_foldl_delete, and_comm]
      simp [hr, hR]
  · rename_i hr
    rw [JsMap.has_eq_true_iff_mem] at hr
    simp [hr]

/-- Transports stay well formed, effect by effect. -/
theorem transportWF_effect {base c c' : Coord κ} {a : Action κ}
    (h : Effect base a c c') (hwf : RouterWF base) (hmb : MemberWF base)
    (hb : TransportWF base) (hm : MemberWF c) (hI : TransportWF c) :
    TransportWF c' := by
  cases h with
  -- only the effects on routers and members reach a clause
  | media h => exact transportWF_media h hmb hb hI
  | createSpace | unsubscribe | workers | finishNow => exact { hI with }
  | resolve =>
      exact { hI with
        produced := fun t h => hI.produced t
          (produced_mem_defer (fun _ => by simp) h) }
  | @request space w workerId strategy =>
      refine TransportFrame.wf { TransportFrame.refl base with
        routerOwner := fun r uuid h => ?_
        onRouter := fun r R' t h ht => ?_ } hI
      -- the id of the new router is fresh, so old routers are other ones
      · have hne : r ≠ base.routerIdGen := by
          rintro rfl
          obtain ⟨R, hR, -⟩ := Option.map_eq_some_iff.mp h
          refine absurd (hwf.fresh _ ?_) (Nat.lt_irrefl base.routerIdGen)
          rw [Coord.routerView, hR]
          simp
        show ((base.routerHeap.set _ _).get? r).map _ = _
        rw [JsMap.get?_set_of_ne _ _ hne]
        exact h
      · have h : (base.routerHeap.set base.routerIdGen _).get? r = some R' := h
        rw [JsMap.get?_set] at h
        split at h
        · cases h
          cases ht
        · exact ⟨R', h, ht⟩
  -- the owner of a router does not change with its capabilities
  | @routerAck id w caps ha hw =>
      rw [onRouterAck_eq hwf _ hw]
      refine TransportFrame.wf { TransportFrame.refl base with
        produced := fun t h =>
          produced_mem_defer (t := .allocated w (.ok id)) (fun _ => by simp) h
        routerOwner := fun r uuid h => ?_
        onRouter := fun r R' t h ht => ?_ } hI
      · simp only [Coord.routerOwner, JsMap.get?_modify] at h ⊢
        split
        · rename_i heq
          rw [← heq, Option.map_map]
          exact h
        · exact h
      · rcases JsMap.get?_modify_cases h with ⟨rfl, R, hR, rfl⟩ | ⟨-, h⟩
        · exact ⟨R, hR, ht⟩
        · exact ⟨R', h, ht⟩
  | routerNack =>
      exact { hI with
        produced := fun t h => hI.produced t
          (produced_mem_defer (fun _ => by simp) h) }
  | subscribe | take | run | finish =>
      exact { hI with
        produced := fun t h => hI.produced t (List.mem_of_mem_eraseIdx h) }
  -- the transports of a removed router go, which no clause minds
  | @beginEnd _ uuid space r =>
      have hsub := fun t h =>
        ((remove_transports (c := c) (r := r) (t := t)).mp h).1
      obtain ⟨transports, routers, l, heq, -⟩ := remove_eq c r
      rw [heq] at hsub ⊢
      refine TransportFrame.wf ?_ hI
      exact .of_eq rfl rfl rfl rfl hsub (fun _ h => h)
        (fun _ => produced_mem_defer fun _ => by simp) fun _ _ h => h
  -- the router that was allocated is one of this space
  | @join i uuid data state cb r ha ht =>
      obtain ⟨caps, hv⟩ := hwf.allocated _ _ (List.mem_of_getElem? ht)
      have hm' : MemberWF (base.without i) := { hm with }
      refine (hI.without i).join hm' _ _ ?_
      obtain ⟨R, hR, hown⟩ := Option.map_eq_some_iff.mp hv
      exact Option.map_eq_some_iff.mpr ⟨R, hR, (Prod.mk.inj hown).1⟩
  | removeMember => exact { hI with }

/-- Routers, members and transports are well formed. -/
structure CoordWF (c : Coord κ) : Prop where
  router : RouterWF c
  member : MemberWF c
  transport : TransportWF c

/-- **Every effect keeps the coordinator in order.** -/
theorem coordWF_effect {base c c' : Coord κ} {a : Action κ}
    (hb : CoordWF base) (h : Effect base a c c') (hI : CoordWF c) :
    CoordWF c' where
  router := routerWF_effect h hI.router
  member := memberWF_effect h hb.router hI.member
  transport := transportWF_effect h hb.router hb.member hb.transport
    hI.member hI.transport

omit [Callback κ] in
/-- A new coordinator is in order. -/
theorem coordWF_initial : CoordWF (Coord.initial : Coord κ) where
  router := routerWF_initial
  member := ⟨fun _ h => absurd rfl h, fun _ h => (by cases h),
    fun _ _ => ⟨fun h => (by cases h), fun h => (by cases h.1)⟩,
    fun _ _ h => (by cases h)⟩
  transport := ⟨fun _ _ h => (by cases h), fun _ h => (by cases h),
    fun _ h => (by cases h), fun _ h => (by cases h),
    fun _ _ h => (by cases h), fun _ _ h => (by cases h),
    fun _ _ h => (by cases h), fun _ _ _ h => (by cases h),
    fun _ _ _ _ h => (by cases h), fun _ _ _ h => (by cases h),
    fun _ _ h => (by cases h)⟩

/-- **Every reachable state is well formed.** -/
theorem coordWF_reachable {c : Coord κ} (h : (machine κ).Reachable c) :
    CoordWF c :=
  reachable_invariant CoordWF
    (fun _ _ hI =>
      ⟨{ hI.router with }, { hI.member with }, { hI.transport with }⟩)
    coordWF_initial (fun _ _ _ _ hb he hI => coordWF_effect hb he hI) h

end Reachable

end Twolk.Coordinator
