/-
  Twolk.Coordinator.Failures
  ──────────────────────────
  **WHAT A FAILED ALLOCATION LEAVES BEHIND.**

  Both allocators write their tables before they publish the request, and
  nothing takes the entries out when the worker nacks.  So a member keeps
  the producer transport it joined with, whether a worker ever created it
  (`members_have_producers`); and the record of a refused router or
  transport stays (`never_rolled_back`).

  A router outlives its table entry, with every transport it was allocated;
  `ListFrame` follows these lists through the effects of a stretch.
-/
import Twolk.Coordinator.Forwarding
import Twolk.Coordinator.Mesh

namespace Twolk.Coordinator

open Twolk.Lib

variable {κ : Type}

/-! ## §1. Every member has a producer. -/

section Producers

variable [Callback κ]

/-- **The member tables agree, and a member's producer is never null**, so
`sourceMember.producer!` can be followed. -/
theorem members_have_producers {c : Coord κ}
    (h : (machine κ).Reachable c) :
    (∀ m, m ∈ c.members.keys ↔
      ∃ uuid, c.spaceOf m = some uuid ∧ m ∈ c.membersOf uuid) ∧
    (∀ m uuid uuid', m ∈ c.membersOf uuid → m ∈ c.membersOf uuid' →
      uuid = uuid') ∧
    (∀ m ∈ c.members.keys, ∃ p T, c.producerOf m = some p ∧
      c.transportHeap.get? p = some T ∧ T.owningMember = m ∧
      T.consumesFromTransportId = none) ∧
    ∀ uuid source sourceMember,
      ((c.spaces.get? uuid).bind fun space =>
        SpaceUpdateDispatcher.findMember c space source)
          = some sourceMember → sourceMember.producer ≠ none := by
  -- all four clauses are parts of the invariant
  have hwf := coordWF_reachable h
  have hproducer := hwf.transport.producer
  refine ⟨fun m => ⟨fun hm => ?_, ?_⟩, fun m uuid uuid' hm hm' => ?_,
    fun m hm => ?_, fun uuid source sourceMember hfind hnull => ?_⟩
  · obtain ⟨uuid, hs⟩ :=
      Option.ne_none_iff_exists'.mp (hwf.member.stored m hm)
    exact ⟨uuid, hs, (hwf.member.mem uuid m).mpr ⟨hm, hs⟩⟩
  · rintro ⟨uuid, -, hm⟩
    exact ((hwf.member.mem uuid m).mp hm).1
  · have hs := ((hwf.member.mem uuid m).mp hm).2
    rw [((hwf.member.mem uuid' m).mp hm').2] at hs
    exact (Option.some.inj hs).symm
  · obtain ⟨uuid, hs⟩ :=
      Option.ne_none_iff_exists'.mp (hwf.member.stored m hm)
    exact hproducer m uuid hs
  -- a member that is found is in the space, and so has a producer
  · obtain ⟨-, hm⟩ := mem_of_findMember hfind
    obtain ⟨p, T, hp, -⟩ := hproducer source sourceMember.owningSpace
      (by rw [Coord.spaceOf, hm]; rfl)
    rw [Coord.producerOf, hm, Option.bind_some, hnull] at hp
    cases hp

end Producers

/-- The worker refuses the producer transport of the second member. -/
theorem members_have_producers_nacked : ∃ c,
    (machine Unit).Reachable c ∧ c.members.keys = [0, 1] ∧
      c.transportRequests.keys = [] ∧
      ∃ p T, c.producerOf 1 = some p ∧ c.transportHeap.get? p = some T ∧
        T.owningMember = 1 ∧ T.consumesFromTransportId = none := by
  obtain ⟨past, c, tr, hr, hp⟩ := Machine.Run.exists_of_exec
    (M := machine Unit) (G := anyStep)
    (l := openRoom ++ joinRoom "a" ++ joinRoom "b" ++
      [.transportAck 0 "a", .transportNack 1 "no ports"])
    (p := fun r => decide (r.2.1.members.keys = [0, 1] ∧
      r.2.1.transportRequests.keys = []))
    rfl (by decide)
  obtain ⟨hm, hq⟩ := of_decide_eq_true hp
  obtain ⟨-, -, hproducer, -⟩ := members_have_producers hr.reachable
  exact ⟨c, hr.reachable, hm, hq, hproducer 1 (by rw [hm]; decide)⟩

/-! ## §2. Routers list their transports. -/

/-- Transport `t` is in `router.transports`. -/
def Coord.lists (c : Coord κ) (r : RouterId) (t : TransportId) : Prop :=
  ∃ R, c.routerHeap.get? r = some R ∧ t ∈ R.transports.keys

/-- `c'` has the lists of `c`, and every new transport is listed. -/
structure ListFrame (c c' : Coord κ) : Prop where
  kept : ∀ r t, c.lists r t → c'.lists r t
  added : ∀ t T', c'.transportHeap.get? t = some T' →
    (∃ T, c.transportHeap.get? t = some T ∧
      T'.owningRouter = T.owningRouter) ∨ c'.lists T'.owningRouter t

namespace ListFrame

variable {c c' c'' : Coord κ}

theorem of_eq (routerHeap : c'.routerHeap = c.routerHeap)
    (transportHeap : c'.transportHeap = c.transportHeap) :
    ListFrame c c' where
  kept r t h := by
    rw [Coord.lists, routerHeap]
    exact h
  added t T' hT' := .inl ⟨T', transportHeap ▸ hT', rfl⟩

/-- What comes before changes neither heap. -/
theorem of_base {d : Coord κ} (h : ListFrame d c')
    (routerHeap : d.routerHeap = c.routerHeap)
    (transportHeap : d.transportHeap = c.transportHeap) :
    ListFrame c c' where
  kept r t hl := by
    refine h.kept r t ?_
    rw [Coord.lists, routerHeap]
    exact hl
  added t T' hT' := by
    rw [← transportHeap]
    exact h.added t T' hT'

theorem trans (h : ListFrame c c') (h' : ListFrame c' c'') :
    ListFrame c c'' where
  kept r t hl := h'.kept r t (h.kept r t hl)
  added t T'' hT'' := by
    rcases h'.added t T'' hT'' with ⟨T', hT', heq⟩ | hl
    · rw [heq]
      rcases h.added t T' hT' with ⟨T, hT, heq'⟩ | hl
      · exact .inl ⟨T, hT, heq'⟩
      · exact .inr (h'.kept _ t hl)
    · exact .inr hl

/-- Changing a router in place keeps the transports listed on it. -/
theorem of_modify {r : RouterId} {f : Router → Router}
    (hf : ∀ R, (f R).transports = R.transports)
    (routerHeap : c'.routerHeap = c.routerHeap.modify r f)
    (transportHeap : c'.transportHeap = c.transportHeap) :
    ListFrame c c' where
  kept r' t h := by
    obtain ⟨R, hR, ht⟩ := h
    unfold Coord.lists
    rw [routerHeap, JsMap.get?_modify]
    by_cases heq : r' = r
    · rw [if_pos heq, ← heq, hR]
      refine ⟨f R, rfl, ?_⟩
      rw [hf]
      exact ht
    · rw [if_neg heq]
      exact ⟨R, hR, ht⟩
  added t T' hT' := .inl ⟨T', transportHeap ▸ hT', rfl⟩

/-- Writing the status of a transport keeps it listed. -/
theorem of_modifyTransport {i : TransportId} {f : Transport → Transport}
    (hf : ∀ T, (f T).owningRouter = T.owningRouter)
    (routerHeap : c'.routerHeap = c.routerHeap)
    (transportHeap : c'.transportHeap = c.transportHeap.modify i f) :
    ListFrame c c' where
  kept r t h := by
    rw [Coord.lists, routerHeap]
    exact h
  added t T' hT' := by
    rw [transportHeap, JsMap.get?_modify] at hT'
    by_cases heq : t = i
    · rw [if_pos heq] at hT'
      obtain ⟨T, hT, rfl⟩ := Option.map_eq_some_iff.mp hT'
      exact .inl ⟨T, heq ▸ hT, hf T⟩
    · rw [if_neg heq] at hT'
      exact .inl ⟨T', hT', rfl⟩

end ListFrame

/-- A transport is requested on a router of the heap. -/
theorem request_listFrame {c : Coord κ} {router : RouterId} {uuid : Uuid}
    (hr : c.routerOwner router = some uuid) (member : MemberId)
    (source : Option TransportId) :
    ListFrame c (TransportAllocator.request c router member source) := by
  obtain ⟨R₀, hR₀, -⟩ := Option.map_eq_some_iff.mp hr
  -- the router gets one transport more
  have hget : ∀ r, (TransportAllocator.request c router member
      source).routerHeap.get? r
        = if r = router then some { R₀ with
            transports := JsSet.add R₀.transports c.transportIdGen }
          else c.routerHeap.get? r := by
    intro r
    refine (JsMap.get?_modify _ _ _ _).trans ?_
    split
    · rw [hR₀]
      rfl
    · rfl
  -- what was listed still is, and the new transport is listed
  constructor
  · rintro r t ⟨R, hR, ht⟩
    unfold Coord.lists
    rw [hget]
    by_cases heq : r = router
    · rw [heq, hR₀] at hR
      cases hR
      rw [if_pos heq]
      exact ⟨_, rfl, JsSet.mem_keys_add.mpr (.inr ht)⟩
    · rw [if_neg heq]
      exact ⟨R, hR, ht⟩
  · intro t T' hT'
    rw [transportHeap_request] at hT'
    by_cases heq : t = c.transportIdGen
    · rw [if_pos heq] at hT'
      cases hT'
      refine .inr ⟨_, (hget router).trans (if_pos rfl), ?_⟩
      exact JsSet.mem_keys_add.mpr (.inl heq)
    · rw [if_neg heq] at hT'
      exact .inl ⟨T', hT', rfl⟩

/-- Asking for a list of transports takes none off a router. By induction on
the list. -/
theorem requestAll_listFrame {router : RouterId} {uuid : Uuid} :
    ∀ (edges : List (MemberId × TransportId)) {c : Coord κ},
      c.routerOwner router = some uuid →
      ListFrame c (requestAll router c edges)
  | [], _, _ => .of_eq rfl rfl
  | e :: edges, c, hr => by
      have hr' : (TransportAllocator.request c router e.1
          (some e.2)).routerOwner router = some uuid := by
        rw [routerOwner_request]
        exact hr
      exact (request_listFrame hr e.1 (some e.2)).trans
        (requestAll_listFrame edges hr')

section Effects

variable [Callback κ]

/-- The media services take no transport off a router. -/
theorem media_listFrame {base c c' : Coord κ} {a : Action κ}
    (hb : CoordWF base) (h : MediaEffect base a c c') : ListFrame c c' := by
  cases h with
  | emit | answer | dropTransport | transportNack | publishUpdate =>
      exact .of_eq rfl rfl
  | @mesh i id _ ht =>
      obtain ⟨T, uuid, hT, -, hs, heq⟩ := mesh_eq hb.transport hb.member ht
      obtain ⟨uuid', -, hr⟩ := hb.transport.owned id T hT
      rw [heq]
      have hr' : ((base.without i).emit
          (.consumersAllocated T.owningMember)).routerOwner T.owningRouter
            = some uuid' := hr
      exact (requestAll_listFrame _ hr').of_base rfl rfl
  | @transportAck id options _ hin =>
      obtain ⟨T, hT, -⟩ := hb.transport.requested id hin
      rw [onTransportAck_eq options hT (hb.transport.source_ne hT)]
      exact .of_modifyTransport (i := id)
        (f := fun t => { t with status := .allocated, options := options })
        (fun _ => rfl) rfl rfl
  | @updateAck id r resp _ hr =>
      obtain ⟨heap, l, heq, -, hheap⟩ := onUpdateAck_eq base id r resp
      rw [heq]
      rcases hheap with rfl | rfl
      · exact .of_eq rfl rfl
      · exact .of_modifyTransport (i := r.transport)
          (f := fun t => { t with status := .connected })
          (fun _ => rfl) rfl rfl
  | @updateNack id r message _ hr =>
      obtain ⟨l, heq, -⟩ := onUpdateNack_eq base id r message
      rw [heq]
      exact .of_eq rfl rfl

/-- No effect does, as long as the router is in its table. -/
theorem listFrame_effect {base c c' : Coord κ} {a : Action κ}
    (hb : CoordWF base) (h : Effect base a c c') : ListFrame c c' := by
  cases h with
  | media h => exact media_listFrame hb h
  | @request space w workerId strategy =>
      -- the new router has a new id
      refine ⟨fun r t h => ?_, fun t T' hT' => .inl ⟨T', hT', rfl⟩⟩
      obtain ⟨R, hR, ht⟩ := h
      have hne : r ≠ base.routerIdGen := by
        rintro rfl
        refine absurd (hb.router.fresh _ ?_) (Nat.lt_irrefl base.routerIdGen)
        rw [Coord.routerView, hR]
        simp
      exact ⟨R, (JsMap.get?_set_of_ne _ _ hne).trans hR, ht⟩
  | @routerAck id w caps _ hw =>
      rw [onRouterAck_eq hb.router _ hw]
      exact .of_modify (r := id)
        (f := fun r => { r with rtpCapabilities := some caps })
        (fun _ => rfl) rfl rfl
  | @beginEnd _ uuid space r =>
      obtain ⟨transports, routers, l, heq, -⟩ := remove_eq c r
      rw [heq]
      exact .of_eq rfl rfl
  | @join i uuid data state cb r _ ht =>
      obtain ⟨caps, hv⟩ :=
        hb.router.allocated _ _ (List.mem_of_getElem? ht)
      obtain ⟨R, hR, hown⟩ := Option.map_eq_some_iff.mp hv
      have hr : (MemberService.add (base.without i) data state
          uuid).routerOwner r = some uuid :=
        Option.map_eq_some_iff.mpr ⟨R, hR, (Prod.mk.inj hown).1⟩
      exact (request_listFrame hr _ _).of_base rfl rfl
  | createSpace | subscribe | unsubscribe | workers | resolve | routerNack
    | take | run | finish | finishNow | removeMember =>
      exact .of_eq rfl rfl

/-- A router goes on listing what it lists, in every step. -/
theorem lists_step {c c' : Coord κ} {a : Action κ} {obs : List (Out κ)}
    {r : RouterId} {t : TransportId} (h : (machine κ).Reachable c)
    (hs : (machine κ).step c a = some (c', obs)) (hl : c.lists r t) :
    c'.lists r t := by
  obtain ⟨d, hd, heq⟩ := Option.map_eq_some_iff.mp hs
  cases heq
  have hwf := coordWF_reachable h
  have hbase : CoordWF { c with out := [] } :=
    ⟨{ hwf.router with }, { hwf.member with }, { hwf.transport with }⟩
  have hl : Coord.lists { c with out := [] } r t := hl
  exact act_invariant (fun d => d.lists r t) hl hd
    fun e e' he hl => (listFrame_effect hbase he).kept r t hl

/-- Every transport is listed by its router. -/
structure Listed (c : Coord κ) : Prop extends CoordWF c where
  listed : ∀ t T, c.transportHeap.get? t = some T →
    c.lists T.owningRouter t

/-- In every reachable state an allocated transport is listed with its router.
-/
theorem listed_reachable {c : Coord κ} (h : (machine κ).Reachable c) :
    Listed c := by
  refine reachable_invariant Listed
    (fun _ _ hI => { hI with
      router := { hI.router with }
      member := { hI.member with }
      transport := { hI.transport with } })
    ⟨coordWF_initial, fun t T hT => nomatch hT⟩ ?_ h
  intro base a c c' hb he hI
  refine ⟨coordWF_effect hb.toCoordWF he hI.toCoordWF, fun t T' hT' => ?_⟩
  have hf := listFrame_effect hb.toCoordWF he
  rcases hf.added t T' hT' with ⟨T, hT, heq⟩ | hl
  · rw [heq]
    exact hf.kept _ t (hI.listed t T hT)
  · exact hl

/-! ## §3. Routers without an ack. -/

omit [Callback κ] in
/-- Router `r` is in the table, and no worker has acked it. -/
def Coord.unacked (c : Coord κ) (r : RouterId) : Prop :=
  r ∈ c.routers.keys ∧ ∃ uuid, c.routerView r = some (uuid, none)

omit [Callback κ] in
/-- A router that is not acked stays so. -/
theorem Coord.unacked.frame {c c' : Coord κ} {r : RouterId}
    (h : c.unacked r) (routers : c'.routers = c.routers)
    (view : c'.routerView r = c.routerView r) : c'.unacked r := by
  unfold Coord.unacked
  rw [routers, view]
  exact h

/-- Only its ack changes it: a router that is removed was acked. -/
theorem unacked_effect {base c c' : Coord κ} {a : Action κ} {r : RouterId}
    (h : Effect base a c c') (hb : RouterWF base) (hI : RouterWF c)
    (hu : c.unacked r) : c'.unacked r ∨ (∃ caps, a = .routerAck r caps) ∧
      base.routerRequests.get? r ≠ none ∧
      c'.routerRequests.get? r = none := by
  obtain ⟨hin, uuid, hv⟩ := hu
  -- a router stays unacked unless it is acked
  cases h with
  | media h =>
      exact .inl (.frame ⟨hin, uuid, hv⟩ h.frame.routers
        (h.frame.routerHeap r))
  -- a new router has a fresh id
  | @request space w workerId strategy =>
      have hne : r ≠ base.routerIdGen := by
        refine Nat.ne_of_lt (hI.fresh r ?_)
        rw [hv]
        simp
      refine .inl ⟨JsSet.mem_keys_add.mpr (.inr hin), uuid, ?_⟩
      rw [← hv]
      exact congrArg _ (JsMap.get?_set_of_ne _ _ hne)
  | @routerAck id w caps ha hw =>
      rw [onRouterAck_eq hb _ hw]
      by_cases heq : r = id
      · subst heq
        refine .inr ⟨⟨caps, ha⟩, by rw [hw]; simp, ?_⟩
        exact JsMap.get?_delete_self _ _
      · refine .inl ⟨hin, uuid, ?_⟩
        rw [← hv]
        exact congrArg _ (JsMap.get?_modify_of_ne _ _ heq)
  -- the router that is removed is a primary one, and so was acked
  | @beginEnd _ uuid' space r' k hs _ hr =>
      obtain ⟨caps, hready⟩ := hI.primary uuid' r' (by
        rw [Coord.primaryOf, hs]
        exact hr)
      have hne : r ≠ r' := by
        rintro rfl
        rw [hready] at hv
        cases hv
      refine .inl ⟨?_, uuid, ?_⟩
      · show r ∈ (RouterAllocator.remove c r').routers.keys
        unfold RouterAllocator.remove
        split
        · split
          · exact hin
          · exact JsMap.mem_keys_delete.mpr ⟨hne, hin⟩
        · exact hin
      · rw [← hv]
        exact (remove_routerFrame c r').view r
  -- a member that joins touches transports only
  | @join i uuid' data state cb r' =>
      have hf := TransportAllocator.request_frame
        (MemberService.add (base.without i) data state uuid') r'
        base.memberIdGen none
      exact .inl (.frame (c := MemberService.add (base.without i) data state
        uuid') ⟨hin, uuid, hv⟩ hf.routers (hf.routerHeap r))
  | createSpace | subscribe | unsubscribe | workers | resolve | routerNack
    | take | run | finish | finishNow | removeMember =>
      exact .inl ⟨hin, uuid, hv⟩

/-- A request is not made anew. -/
theorem routerRequests_effect {base c c' : Coord κ} {a : Action κ}
    {r : RouterId} (h : Effect base a c c') (hb : RouterWF base) :
    c'.routerRequests.get? r = c.routerRequests.get? r ∨
      c'.routerRequests.get? r = none ∨
      r = c.routerIdGen ∧ c'.unacked r := by
  cases h with
  | media h => exact .inl (by rw [h.frame.routerRequests])
  | @request space w workerId strategy =>
      by_cases heq : r = base.routerIdGen
      · refine .inr (.inr ⟨heq, JsSet.mem_keys_add.mpr (.inl heq), w.uuid, ?_⟩)
        rw [heq]
        exact congrArg _ (JsMap.get?_set_self _ _ _)
      · exact .inl (JsMap.get?_set_of_ne _ _ heq)
  | @routerAck id w caps ha hw =>
      rw [onRouterAck_eq hb _ hw]
      by_cases heq : r = id
      · exact .inr (.inl (heq ▸ JsMap.get?_delete_self _ _))
      · refine .inl ((JsMap.get?_delete _ _ _).trans (if_neg heq))
  | @routerNack id w message ha hw =>
      by_cases heq : r = id
      · exact .inr (.inl (heq ▸ JsMap.get?_delete_self _ _))
      · refine .inl ((JsMap.get?_delete _ _ _).trans (if_neg heq))
  | @beginEnd _ uuid space r' =>
      obtain ⟨transports, routers, l, heq, -⟩ := remove_eq c r'
      rw [heq]
      exact .inl rfl
  | createSpace | subscribe | unsubscribe | workers | resolve | take | run
    | finish | finishNow | join | removeMember => exact .inl rfl

/-- A router that waits for its worker is in the table. -/
theorem requested_unacked {c : Coord κ} (h : (machine κ).Reachable c)
    {r : RouterId} (hr : c.routerRequests.get? r ≠ none) : c.unacked r := by
  have hI : RouterWF c ∧
      ∀ r, c.routerRequests.get? r ≠ none → c.unacked r := by
    refine reachable_invariant
      (fun c => RouterWF c ∧
        ∀ r, c.routerRequests.get? r ≠ none → c.unacked r)
      (fun c out hI => ⟨{ hI.1 with }, hI.2⟩)
      ⟨routerWF_initial, fun r hr => absurd rfl hr⟩ ?_ h
    intro base a c c' hb he hI
    refine ⟨routerWF_effect he hI.1, fun r hr => ?_⟩
    rcases routerRequests_effect (r := r) he hb.1 with heq | hn | ⟨-, hu⟩
    · rw [heq] at hr
      rcases unacked_effect he hb.1 hI.1 (hI.2 r hr) with hu | ⟨-, -, hn⟩
      · exact hu
      · rw [heq] at hn
        exact absurd hn hr
    · exact absurd hn hr
    · exact hu
  exact hI.2 r hr

/-! ## §4. Nothing is rolled back. -/

omit [Callback κ] in
/-- A router that its worker refused. -/
structure RouterRefused (c : Coord κ) (r : RouterId) : Prop where
  unacked : c.unacked r
  answered : c.routerRequests.get? r = none

/-- A router that was refused stays refused. -/
theorem RouterRefused.step {c c' : Coord κ} {a : Action κ}
    {obs : List (Out κ)} {r : RouterId} (h : RouterRefused c r)
    (hr : (machine κ).Reachable c)
    (hs : (machine κ).step c a = some (c', obs)) : RouterRefused c' r := by
  obtain ⟨e, hd, heq⟩ := Option.map_eq_some_iff.mp hs
  cases heq
  have hI : RouterWF { c with out := [] } := { routerWF_reachable hr with }
  have hstep := act_invariant (fun d => RouterWF d ∧ RouterRefused d r)
    ⟨hI, h.unacked, h.answered⟩ hd
    fun d d' he hd => ⟨routerWF_effect he hd.1, ?_⟩
  · exact hstep.2
  · have hlt : r < d.routerIdGen := by
      obtain ⟨-, uuid, hv⟩ := hd.2.unacked
      refine hd.1.fresh r ?_
      rw [hv]
      simp
    constructor
    · rcases unacked_effect he hI hd.1 hd.2.unacked with hu | ⟨-, hne, -⟩
      · exact hu
      · exact absurd h.answered hne
    · rcases routerRequests_effect (r := r) he hI with heq | hn | ⟨heq, -⟩
      · rw [heq]
        exact hd.2.answered
      · exact hn
      · exact absurd heq (Nat.ne_of_lt hlt)

end Effects

/-- An allocation a worker is asked for. -/
inductive Allocation where
  | router (id : RouterId)
  | transport (id : TransportId)

/-- The worker nacks the request. -/
def Allocation.nack (κ : Type) (message : String) :
    Allocation → Action κ
  | router id => .routerNack id message
  | transport id => .transportNack id message

/-- No record of the allocation is left. -/
def Coord.rolledBack (c : Coord κ) : Allocation → Prop
  | .router r => r ∉ c.routers.keys
  | .transport t => t ∉ c.transports.keys ∧ (∀ r, ¬ c.lists r t) ∧
      (∀ uuid, ∀ m ∈ c.membersOf uuid, c.producerOf m ≠ some t) ∧
      ∀ m M b, c.memberHeap.get? m = some M →
        M.memberToConsumerMap.get? b ≠ some (some t)

section Nacked

variable [Callback κ]

/-- **A refused allocation is never rolled back**: not by the nack, and not
by anything after it. -/
theorem never_rolled_back {c c' c'' : Coord κ} {x : Allocation}
    {message : String} {obs : List (Out κ)} (h : (machine κ).Reachable c)
    (hs : (machine κ).step c (x.nack κ message) = some (c', obs))
    (hlater : Relation.ReflTransGen
      (fun d d' => ∃ a obs, (machine κ).step d a = some (d', obs)) c' c'') :
    ¬ c''.rolledBack x := by
  cases x with
  | router r =>
      -- a router that is refused was requested, and is not acked
      have hr : c.routerRequests.get? r ≠ none ∧ RouterRefused c' r := by
        obtain ⟨d, hd, heq⟩ := Option.map_eq_some_iff.mp hs
        cases heq
        obtain ⟨w, hw, rfl⟩ := Option.map_eq_some_iff.mp hd
        have hw : c.routerRequests.get? r = some w := hw
        have hne : c.routerRequests.get? r ≠ none := by
          rw [hw]
          simp
        exact ⟨hne, requested_unacked h hne, JsMap.get?_delete_self _ _⟩
      -- and so in every later state, by induction on the steps
      have hlast : (machine κ).Reachable c'' ∧ RouterRefused c'' r := by
        induction hlater with
        | refl => exact ⟨h.step hs, hr.2⟩
        | tail _ hstep ih =>
            obtain ⟨a, obs, hstep⟩ := hstep
            exact ⟨ih.1.step hstep, ih.2.step ih.1 hstep⟩
      exact fun hn => hn hlast.2.unacked.1
  | transport t =>
      -- a transport that is refused is on its router's list
      have hin : t ∈ c.transportRequests.keys := by
        obtain ⟨d, hd, -⟩ := Option.map_eq_some_iff.mp hs
        simp only [Allocation.nack, Coord.act] at hd
        split at hd
        · rename_i hhas
          exact JsMap.has_eq_true_iff_mem.mp hhas
        · cases hd
      have hI := listed_reachable h
      obtain ⟨T, hT, -⟩ := hI.transport.requested t hin
      have hlists := lists_step h hs (hI.listed t T hT)
      -- the list keeps it, by induction on the steps
      have hlast : (machine κ).Reachable c'' ∧
          c''.lists T.owningRouter t := by
        induction hlater with
        | refl => exact ⟨h.step hs, hlists⟩
        | tail _ hstep ih =>
            obtain ⟨a, obs, hstep⟩ := hstep
            exact ⟨ih.1.step hstep, lists_step ih.1 hstep ih.2⟩
      exact fun hn => hn.2.1 _ hlast.2

end Nacked

/-- The producer transport of the only member is refused, and everything
has been answered. -/
theorem never_rolled_back_transport : ∃ c : Coord Unit,
    (machine Unit).Reachable c ∧ c.quiescent ∧
      ¬ c.rolledBack (.transport 0) := by
  obtain ⟨past, c, tr, hr, hp⟩ := Machine.Run.exists_of_exec
    (M := machine Unit) (G := anyStep) (l := openRoom ++ joinRoom "a")
    (p := fun r => decide (∃ q ∈ (machine Unit).step r.2.1
      (.transportNack 0 "no ports"), q.1.quiescent))
    rfl (by decide)
  obtain ⟨⟨c', obs⟩, hs, hq⟩ := of_decide_eq_true hp
  exact ⟨c', hr.reachable.step hs, hq,
    never_rolled_back (x := .transport 0) hr.reachable hs .refl⟩

/-- The router of a space is refused and the handlers of its promise have
run: the router is still in the table. -/
theorem router_stays : ∃ c c' c'' : Coord Unit, ∃ obs,
    (machine Unit).Reachable c ∧
      (machine Unit).step c (.routerNack 0 "full") = some (c', obs) ∧
      Relation.ReflTransGen
        (fun d d' => ∃ a obs, (machine Unit).step d a = some (d', obs))
        c' c'' ∧
      c''.quiescent ∧ ¬ c''.rolledBack (.router 0) := by
  obtain ⟨past, c, tr, hr, hp⟩ := Machine.Run.exists_of_exec
    (M := machine Unit) (G := anyStep) (l := openRoom.take 3)
    (p := fun r => decide
      (∃ q ∈ (machine Unit).step r.2.1 (.routerNack 0 "full"),
        ∃ q' ∈ (machine Unit).step q.1 (.resume 0),
          ∃ q'' ∈ (machine Unit).step q'.1 (.resume 0),
            q''.1.quiescent ∧ 0 ∈ q''.1.routers.keys))
    rfl (by decide)
  obtain ⟨⟨c', obs⟩, hs, ⟨d, obs'⟩, hs', ⟨c'', obs''⟩, hs'', hq, hin⟩ :=
    of_decide_eq_true hp
  have hlater := Relation.ReflTransGen.refl.tail
    (r := fun d d' => ∃ a obs, (machine Unit).step d a = some (d', obs))
    ⟨_, _, hs'⟩
  exact ⟨c, c', c'', obs, hr.reachable, hs, hlater.tail ⟨_, _, hs''⟩, hq,
    fun hn => hn hin⟩

end Twolk.Coordinator
