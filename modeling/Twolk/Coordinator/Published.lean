/-
  Twolk.Coordinator.Published
  ───────────────────────────
  **WHAT A STRETCH PUBLISHES TO THE WORKERS.**

  `Publishes base a c`: the stretch of action `a` that began in `base` and
  stands in `c` has published router requests, transport requests and
  transport updates under consecutive new ids; a transport request states
  the record it is for, an update goes to an allocated transport, and a
  record becomes allocated by a worker's ack only.

  This is all the workers' side needs to know about the coordinator.
-/
import Twolk.Coordinator.Transports

namespace Twolk.Coordinator

open Twolk.Lib

variable {κ : Type}

/-! ## §1. Publications. -/

/-- The router a message asks for. -/
def Out.routerAsked : Out κ → Option RouterId
  | .newRouterRequest assignedId _ => some assignedId
  | _ => none

/-- The transport a message asks for. -/
def Out.transportAsked : Out κ → Option TransportId
  | .newWebRtcTransportRequest _ assignedId _ => some assignedId
  | _ => none

/-- The number of a transport update. -/
def Out.updateSent : Out κ → Option Nat
  | .transportUpdate request .. => some request
  | _ => none

/-- The message is for the workers. -/
def Out.toWorkers : Out κ → Bool
  | .newRouterRequest .. | .newWebRtcTransportRequest .. |
    .transportUpdate .. => true
  | _ => false

/-- The part of a transport record that never changes. -/
def Transport.shape (T : Transport) : RouterId × Option TransportId :=
  (T.owningRouter, T.consumesFromTransportId)

/-- The ids `f` reads off the outbox are those the generator issued. -/
def Issued (f : Out κ → Option Nat) (out : List (Out κ))
    (gen gen' : Nat) : Prop :=
  ∃ k, gen' = gen + k ∧ out.filterMap f = List.range' gen k

/-- What the stretch of `a` from `base` has published when it stands in
`c`. -/
structure Publishes (base : Coord κ) (a : Action κ) (c : Coord κ) :
    Prop where
  routerIds : Issued Out.routerAsked c.out base.routerIdGen c.routerIdGen
  transportIds : Issued Out.transportAsked c.out base.transportIdGen
    c.transportIdGen
  updateIds : Issued Out.updateSent c.out base.updateIdGen c.updateIdGen
  /-- A transport request states the record it is for. -/
  request : ∀ r t isProducer,
    .newWebRtcTransportRequest r t isProducer ∈ c.out →
    ∃ T, c.transportHeap.get? t = some T ∧ T.owningRouter = r ∧
      isProducer = T.consumesFromTransportId.isNone
  /-- An update is for an allocated transport. -/
  update : ∀ n t update cb, .transportUpdate n t update cb ∈ c.out →
    ∃ T, base.transportHeap.get? t = some T ∧ T.status ≠ .unallocated
  /-- Records stay what they are for. -/
  shape : ∀ t T, base.transportHeap.get? t = some T →
    ∃ T', c.transportHeap.get? t = some T' ∧ T'.shape = T.shape
  /-- A record becomes allocated by a worker's ack. -/
  status : ∀ t T, c.transportHeap.get? t = some T →
    T.status ≠ .unallocated →
    (∃ T₀, base.transportHeap.get? t = some T₀ ∧
      T₀.status ≠ .unallocated) ∨ ∃ options, a = .transportAck t options

/-! ## §2. Changes that publish nothing. -/

/-- From `c` to `c'` nothing is published and nothing is allocated. -/
structure PublishFrame (c c' : Coord κ) : Prop where
  routerIdGen : c'.routerIdGen = c.routerIdGen
  transportIdGen : c'.transportIdGen = c.transportIdGen
  updateIdGen : c'.updateIdGen = c.updateIdGen
  shape : ∀ t T, c.transportHeap.get? t = some T →
    ∃ T', c'.transportHeap.get? t = some T' ∧ T'.shape = T.shape
  status : ∀ t T', c'.transportHeap.get? t = some T' →
    T'.status ≠ .unallocated →
    ∃ T, c.transportHeap.get? t = some T ∧ T.status ≠ .unallocated
  out : ∃ l, c'.out = c.out ++ l ∧ ∀ o ∈ l, o.toWorkers = false

/-- Answers go to no worker. -/
theorem Out.toWorkers_of_answers {o : Out κ} (ho : o.answers = true) :
    o.toWorkers = false := by
  cases o <;> first | rfl | cases ho

/-- A change of other tables publishes nothing. -/
theorem PublishFrame.of_eq {c c' : Coord κ}
    (routerIdGen : c'.routerIdGen = c.routerIdGen)
    (transportIdGen : c'.transportIdGen = c.transportIdGen)
    (updateIdGen : c'.updateIdGen = c.updateIdGen)
    (heap : c'.transportHeap = c.transportHeap)
    (out : ∃ l, c'.out = c.out ++ l ∧ ∀ o ∈ l, o.toWorkers = false) :
    PublishFrame c c' where
  routerIdGen := routerIdGen
  transportIdGen := transportIdGen
  updateIdGen := updateIdGen
  shape t T hT := ⟨T, by rw [heap, hT], rfl⟩
  status t T hT hst := ⟨T, by rw [← heap, hT], hst⟩
  out := out

section Frame

variable {base c c' : Coord κ} {a : Action κ}

/-- Messages that are not for the workers carry no id. -/
theorem Out.ids_of_not_toWorkers {o : Out κ} (ho : o.toWorkers = false) :
    o.routerAsked = none ∧ o.transportAsked = none ∧
      o.updateSent = none := by
  cases o <;> first | exact ⟨rfl, rfl, rfl⟩ | cases ho

/-- What issues no number leaves the numbers as they are. -/
theorem Issued.append {f : Out κ → Option Nat} {out l : List (Out κ)}
    {gen gen' : Nat} (h : Issued f out gen gen')
    (hl : ∀ o ∈ l, f o = none) : Issued f (out ++ l) gen gen' := by
  obtain ⟨k, hk, hout⟩ := h
  refine ⟨k, hk, ?_⟩
  rw [List.filterMap_append, hout, List.filterMap_eq_nil_iff.mpr hl,
    List.append_nil]

/-- Nothing new goes to the workers. -/
theorem Publishes.frame (h : Publishes base a c) (hf : PublishFrame c c') :
    Publishes base a c' := by
  obtain ⟨l, hl, hw⟩ := hf.out
  have hmem : ∀ {o : Out κ}, o.toWorkers = true → o ∈ c'.out →
      o ∈ c.out := by
    intro o ho hm
    rw [hl] at hm
    rcases List.mem_append.mp hm with hm | hm
    · exact hm
    · rw [hw o hm] at ho
      cases ho
  constructor
  case routerIds =>
    rw [hl, hf.routerIdGen]
    exact h.routerIds.append fun o ho => (Out.ids_of_not_toWorkers (hw o ho)).1
  case transportIds =>
    rw [hl, hf.transportIdGen]
    exact h.transportIds.append
      fun o ho => (Out.ids_of_not_toWorkers (hw o ho)).2.1
  case updateIds =>
    rw [hl, hf.updateIdGen]
    exact h.updateIds.append
      fun o ho => (Out.ids_of_not_toWorkers (hw o ho)).2.2
  case request =>
    intro r t isProducer hm
    obtain ⟨T, hT, hr, hp⟩ := h.request r t isProducer (hmem rfl hm)
    obtain ⟨T', hT', hs⟩ := hf.shape t T hT
    obtain ⟨hr', hp'⟩ := Prod.mk.inj hs
    exact ⟨T', hT', hr'.trans hr, hp'.symm ▸ hp⟩
  case update =>
    exact fun n t update cb hm => h.update n t update cb (hmem rfl hm)
  case shape =>
    intro t T hT
    obtain ⟨T', hT', hs⟩ := h.shape t T hT
    obtain ⟨T'', hT'', hs'⟩ := hf.shape t T' hT'
    exact ⟨T'', hT'', hs'.trans hs⟩
  case status =>
    intro t T' hT' hst
    obtain ⟨T, hT, hst⟩ := hf.status t T' hT' hst
    exact h.status t T hT hst

theorem publishes_refl (hout : base.out = []) : Publishes base a base where
  routerIds := ⟨0, rfl, by rw [hout]; rfl⟩
  transportIds := ⟨0, rfl, by rw [hout]; rfl⟩
  updateIds := ⟨0, rfl, by rw [hout]; rfl⟩
  request _ _ _ h := by
    rw [hout] at h
    cases h
  update _ _ _ _ h := by
    rw [hout] at h
    cases h
  shape t T hT := ⟨T, hT, rfl⟩
  status _ T hT hst := .inl ⟨T, hT, hst⟩

/-- Nor does updating the status of allocated records. -/
theorem modify_publishFrame {id : TransportId} {f : Transport → Transport}
    (hshape : ∀ T, (f T).shape = T.shape)
    (hst : ∃ T, c.transportHeap.get? id = some T ∧ T.status ≠ .unallocated)
    (hgen : c'.routerIdGen = c.routerIdGen ∧
      c'.transportIdGen = c.transportIdGen ∧ c'.updateIdGen = c.updateIdGen)
    (hheap : c'.transportHeap = c.transportHeap.modify id f)
    (hout : ∃ l, c'.out = c.out ++ l ∧ ∀ o ∈ l, o.toWorkers = false) :
    PublishFrame c c' where
  routerIdGen := hgen.1
  transportIdGen := hgen.2.1
  updateIdGen := hgen.2.2
  shape t T hT := by
    rw [hheap, JsMap.get?_modify]
    split
    · rename_i heq
      subst heq
      exact ⟨f T, by rw [hT]; rfl, hshape T⟩
    · exact ⟨T, hT, rfl⟩
  status t T' hT' hst' := by
    rw [hheap, JsMap.get?_modify] at hT'
    split at hT'
    · rename_i heq
      subst heq
      exact hst
    · exact ⟨T', hT', hst'⟩
  out := hout

end Frame

/-! ## §3. The effects that publish. -/

section Effects

variable {c : Coord κ}

/-- A router request is published under the next router id. -/
theorem publishes_request {base : Coord κ} {a : Action κ}
    (hout : base.out = []) (uuid : Uuid) (workerId : WorkerId)
    (strategy : RoundRobinStrategy) (w : RouterWaiter κ) :
    Publishes base a
      (RouterAllocator.request base uuid workerId strategy w) :=
  { publishes_refl hout with
    routerIds := ⟨1, rfl, by
      show (base.out ++ [_]).filterMap _ = _
      rw [hout]
      rfl⟩
    transportIds := ⟨0, rfl, by
      show (base.out ++ [_]).filterMap _ = _
      rw [hout]
      rfl⟩
    updateIds := ⟨0, rfl, by
      show (base.out ++ [_]).filterMap _ = _
      rw [hout]
      rfl⟩
    request := fun r t isProducer h => by
      have h : _ ∈ base.out ++ [_] := h
      simp [hout] at h
    update := fun n t update cb h => by
      have h : _ ∈ base.out ++ [_] := h
      simp [hout] at h }

/-- A transport update is published under the next request number. -/
theorem publishes_update {base : Coord κ} {a : Action κ}
    (hout : base.out = []) {transport : TransportId} {t : Transport}
    (update : TransportUpdateC) (uuid : Uuid) (memberId : MemberId) (cb : κ)
    (ht : base.transportHeap.get? transport = some t)
    (hst : t.status ≠ .unallocated) :
    Publishes base a (SpaceUpdateDispatcher.publish base transport update
      uuid memberId cb) :=
  { publishes_refl hout with
    routerIds := ⟨0, rfl, by
      show (base.out ++ [_]).filterMap _ = _
      rw [hout]
      rfl⟩
    transportIds := ⟨0, rfl, by
      show (base.out ++ [_]).filterMap _ = _
      rw [hout]
      rfl⟩
    updateIds := ⟨1, rfl, by
      show (base.out ++ [_]).filterMap _ = _
      rw [hout]
      rfl⟩
    request := fun r t isProducer h => by
      have h : _ ∈ base.out ++ [_] := h
      simp [hout] at h
    update := fun n t' update' cb' h => by
      have h : _ ∈ base.out ++ [_] := h
      rw [hout, List.nil_append, List.mem_singleton] at h
      cases h
      exact ⟨t, ht, hst⟩ }

/-- Records requested on top of the records of `base`. -/
theorem publishes_requested {base : Coord κ} {a : Action κ}
    (hI : TransportWF base) {k : Nat} {g : Nat → Option Transport}
    (router : RouterId) (isProducer : Bool)
    (hgen : c.routerIdGen = base.routerIdGen ∧
      c.transportIdGen = base.transportIdGen + k ∧
      c.updateIdGen = base.updateIdGen)
    (hheap : ∀ t, c.transportHeap.get? t
      = if base.transportIdGen ≤ t then g (t - base.transportIdGen)
        else base.transportHeap.get? t)
    (hrecords : ∀ i T, g i = some T → T.owningRouter = router ∧
      T.consumesFromTransportId.isNone = isProducer ∧
      T.status = .unallocated)
    (hall : ∀ i < k, (g i).isSome)
    {l : List (Out κ)} (hl : ∀ o ∈ l, o.toWorkers = false)
    (hout : c.out = l ++ (List.range' base.transportIdGen k).map
      fun t => .newWebRtcTransportRequest router t isProducer) :
    Publishes base a c := by
  -- what else the step writes carries no id
  have hids : ∀ f : Out κ → Option Nat, (∀ o ∈ l, f o = none) →
      c.out.filterMap f = (List.range' base.transportIdGen k).filterMap
        fun t => f (.newWebRtcTransportRequest router t isProducer) := by
    intro f hf
    rw [hout, List.filterMap_append, List.filterMap_eq_nil_iff.mpr hf,
      List.nil_append, List.filterMap_map]
    rfl
  -- all that it sends to workers are these requests
  have hmem : ∀ {o : Out κ}, o.toWorkers = true → o ∈ c.out →
      ∃ i < k, o = .newWebRtcTransportRequest router
        (base.transportIdGen + i) isProducer := by
    intro o ho hm
    rw [hout] at hm
    rcases List.mem_append.mp hm with hm | hm
    · rw [hl o hm] at ho
      cases ho
    · obtain ⟨t, ht, rfl⟩ := List.mem_map.mp hm
      obtain ⟨i, hi, rfl⟩ := List.mem_range'.mp ht
      exact ⟨i, hi, by rw [Nat.one_mul]⟩
  -- what was there before keeps its record
  have hold : ∀ t T, base.transportHeap.get? t = some T →
      c.transportHeap.get? t = some T := by
    intro t T hT
    rw [hheap, if_neg (Nat.not_le.mpr (hI.fresh t T hT)), hT]
  constructor
  case routerIds =>
    refine ⟨0, hgen.1, (hids _ fun o ho =>
      (Out.ids_of_not_toWorkers (hl o ho)).1).trans ?_⟩
    exact List.filterMap_eq_nil_iff.mpr fun _ _ => rfl
  case transportIds =>
    refine ⟨k, hgen.2.1, (hids _ fun o ho =>
      (Out.ids_of_not_toWorkers (hl o ho)).2.1).trans ?_⟩
    exact List.filterMap_some
  case updateIds =>
    refine ⟨0, hgen.2.2, (hids _ fun o ho =>
      (Out.ids_of_not_toWorkers (hl o ho)).2.2).trans ?_⟩
    exact List.filterMap_eq_nil_iff.mpr fun _ _ => rfl
  case request =>
    intro r t isProducer' hm
    obtain ⟨i, hi, h⟩ := hmem rfl hm
    cases h
    obtain ⟨T, hT⟩ := Option.isSome_iff_exists.mp (hall i hi)
    obtain ⟨hr, hp, -⟩ := hrecords i T hT
    refine ⟨T, ?_, hr, hp.symm⟩
    rw [hheap, if_pos (Nat.le_add_right _ _), Nat.add_sub_cancel_left, hT]
  case update =>
    intro n t update cb hm
    obtain ⟨i, -, h⟩ := hmem rfl hm
    cases h
  case shape => exact fun t T hT => ⟨T, hold t T hT, rfl⟩
  case status =>
    intro t T hT hst
    rw [hheap] at hT
    split at hT
    · exact absurd (hrecords _ T hT).2.2 hst
    · exact .inl ⟨T, hT, hst⟩

/-- A new member's producer request is published under the next transport id.
-/
theorem publishes_join {base : Coord κ} {a : Action κ}
    (hI : TransportWF base) (hout : base.out = []) (i : Nat)
    (data : MemberData) (state : MemberState) (uuid : Uuid)
    (r : RouterId) :
    Publishes base a (TransportAllocator.request
      (MemberService.add (base.without i) data state uuid) r
      base.memberIdGen none) := by
  refine publishes_requested hI (k := 1) (l := [.memberAdded base.memberIdGen])
    (g := fun i => [requestedTransport r base.memberIdGen none][i]?)
    r true ⟨rfl, rfl, rfl⟩ (fun t => ?_) (fun i T hT => ?_) (fun i hi => ?_)
    (by simp [Out.toWorkers]) ?_
  · refine (transportHeap_request none t).trans ?_
    show (if t = base.transportIdGen then _ else base.transportHeap.get? t)
      = _
    rcases Nat.lt_trichotomy t base.transportIdGen with h | h | h
    · rw [if_neg (Nat.ne_of_lt h), if_neg (Nat.not_le.mpr h)]
    · rw [if_pos h, if_pos (Nat.le_of_eq h.symm), h, Nat.sub_self]
      rfl
    · rw [if_neg (Nat.ne_of_gt h), if_pos (Nat.le_of_lt h)]
      obtain ⟨k, rfl⟩ := Nat.exists_eq_add_of_lt h
      rw [Nat.add_assoc, Nat.add_sub_cancel_left]
      cases hT : base.transportHeap.get? (base.transportIdGen + (k + 1)) with
      | none => rfl
      | some T =>
          exact absurd (hI.fresh _ T hT)
            (Nat.not_lt.mpr (Nat.le_add_right _ _))
  · obtain rfl : T = requestedTransport r base.memberIdGen none := by
      simpa using List.mem_of_getElem? hT
    exact ⟨rfl, rfl, rfl⟩
  · obtain rfl : i = 0 := Nat.lt_one_iff.mp hi
    rfl
  · show base.out ++ [_] ++ [_] = _
    rw [hout]
    rfl

/-- The consumer mesh of a new member is published under consecutive transport
ids. -/
theorem publishes_mesh {base : Coord κ} {a : Action κ}
    (hwf : CoordWF base) (hout : base.out = []) {i : Nat} {p : TransportId}
    (ht : base.tasks[i]? = some (.producerAllocated p)) :
    Publishes base a
      (MemberService.allocateConsumers (base.without i) p) := by
  obtain ⟨T, uuid, -, -, -, heq⟩ := mesh_eq hwf.transport hwf.member ht
  rw [heq]
  obtain ⟨hr, hg, hu, ho⟩ := requestAll_published T.owningRouter
    (meshEdges base uuid T.owningMember p)
    ((base.without i).emit (.consumersAllocated T.owningMember))
  refine publishes_requested hwf.transport
    (k := (meshEdges base uuid T.owningMember p).length)
    (l := [.consumersAllocated T.owningMember])
    (g := fun i => ((meshEdges base uuid T.owningMember p)[i]?).map
      fun e => requestedTransport T.owningRouter e.1 (some e.2))
    T.owningRouter false ⟨hr, hg, hu⟩ (fun t => ?_) (fun i S hS => ?_)
    (fun i hi => ?_) (by simp [Out.toWorkers]) ?_
  · refine requestAll_heap T.owningRouter _ _ (fun t hle => ?_) t
    show base.transportHeap.get? t = none
    exact hwf.transport.heap_next hle
  · obtain ⟨e, -, rfl⟩ := Option.map_eq_some_iff.mp hS
    exact ⟨rfl, rfl, rfl⟩
  · rw [List.getElem?_eq_getElem hi]
    rfl
  · rw [ho]
    show base.out ++ [_] ++ _ = _
    rw [hout]
    rfl

/-- The record of a transport allocated, with whatever is said of it. -/
theorem publishes_allocated {base : Coord κ} (hout : base.out = [])
    (id : TransportId) (options : Json) {requests : JsSet TransportId}
    {members : JsMap MemberId Member} {tasks : List (Task κ)} {l : List (Out κ)}
    (hl : ∀ o ∈ l, o.toWorkers = false) :
    Publishes base (.transportAck id options) { base with
      transportRequests := requests
      transportHeap := base.transportHeap.modify id fun t =>
        { t with status := .allocated, options := some options }
      memberHeap := members
      tasks := tasks
      out := base.out ++ l } := by
  have hfr : PublishFrame base { base with out := base.out ++ l } :=
    .of_eq rfl rfl rfl rfl ⟨l, rfl, hl⟩
  have hp : Publishes base (.transportAck id options) _ :=
    (publishes_refl hout).frame hfr
  refine { hp with
    request := fun r t isProducer hm => ?_
    shape := fun t T' hT' => ?_
    status := fun t T' hT' hst => ?_ }
  · obtain ⟨T', hT', -⟩ := hp.request r t isProducer hm
    rw [show base.out = [] from hout, List.nil_append] at hm
    exact absurd (hl _ hm) (by simp [Out.toWorkers])
  · simp only [JsMap.get?_modify]
    split
    · rename_i heq
      subst heq
      exact ⟨{ T' with status := .allocated, options := some options },
        by rw [hT']; rfl, rfl⟩
    · exact ⟨T', hT', rfl⟩
  · simp only [JsMap.get?_modify] at hT'
    split at hT'
    · rename_i heq
      subst heq
      exact .inr ⟨options, rfl⟩
    · exact .inl ⟨T', hT', hst⟩

/-- Announcements go to no worker. -/
theorem paramsEvents_toWorkers {base : Coord κ} {T : Transport}
    {source : Option MemberId} {options : Json} {o : Out κ}
    (ho : o ∈ base.paramsEvents T source options) : o.toWorkers = false := by
  unfold Coord.paramsEvents at ho
  split at ho
  · cases ho
  · split at ho
    · cases List.mem_singleton.mp ho
      rfl
    · cases ho

/-- The ack of a worker publishes announcements only. -/
theorem publishes_transportAck {base : Coord κ} (hwf : CoordWF base)
    (hout : base.out = []) {id : TransportId} {options : Json}
    (h : id ∈ base.transportRequests.keys) :
    Publishes base (.transportAck id options)
      (TransportAllocator.onTransportAck base id options) := by
  obtain ⟨T, hT, -⟩ := hwf.transport.requested id h
  rw [onTransportAck_eq options hT (hwf.transport.source_ne hT)]
  apply publishes_allocated hout
  intro o ho
  rcases List.mem_cons.mp ho with rfl | ho
  · rfl
  · split at ho
    · cases ho
    · exact paramsEvents_toWorkers ho

end Effects

/-! ## §4. Every stretch. -/

section Stretches

variable [Callback κ]

/-- What the media layer publishes follows from its action. -/
theorem publishes_media {base c c' : Coord κ} {a : Action κ}
    (hwf : CoordWF base) (hout : base.out = [])
    (h : MediaEffect base a c c') (hI : Publishes base a c) :
    Publishes base a c' := by
  cases h with
  | @emit _ o ho =>
      refine hI.frame (.of_eq rfl rfl rfl rfl ⟨[o], rfl, fun o' h => ?_⟩)
      rw [List.mem_singleton.mp h]
      exact Out.toWorkers_of_answers (Out.answers_of_replies ho)
  | answer | dropTransport | transportNack =>
      exact hI.frame (.of_eq rfl rfl rfl rfl
        ⟨[], (List.append_nil _).symm, by simp⟩)
  | mesh _ ht => exact publishes_mesh hwf hout ht
  | transportAck ha h =>
      subst ha
      exact publishes_transportAck hwf hout h
  | publishUpdate update uuid memberId cb ht hst =>
      exact publishes_update hout update uuid memberId cb ht hst
  | @updateAck id r resp ha h =>
      obtain ⟨heap, l, heq, hl, hheap⟩ := onUpdateAck_eq base id r resp
      rw [heq]
      have hw : ∀ o ∈ l, o.toWorkers = false :=
        fun o ho => Out.toWorkers_of_answers (hl o ho)
      rcases hheap with rfl | rfl
      · exact hI.frame (.of_eq rfl rfl rfl rfl ⟨l, rfl, hw⟩)
      · exact hI.frame (modify_publishFrame
          (f := fun t => { t with status := .connected }) (fun _ => rfl)
          (hwf.transport.updated id r h) ⟨rfl, rfl, rfl⟩ rfl ⟨l, rfl, hw⟩)
  | @updateNack id r message =>
      obtain ⟨l, heq, hl⟩ := onUpdateNack_eq base id r message
      rw [heq]
      exact hI.frame (.of_eq rfl rfl rfl rfl
        ⟨l, rfl, fun o ho =>
          Out.toWorkers_of_answers (Out.answers_of_replies (hl o ho))⟩)

/-- **Every effect** publishes what its action is about, under the next
numbers. -/
theorem publishes_effect {base c c' : Coord κ} {a : Action κ}
    (hwf : CoordWF base) (hout : base.out = []) (h : Effect base a c c')
    (hI : Publishes base a c) : Publishes base a c' := by
  cases h with
  | media h => exact publishes_media hwf hout h hI
  | createSpace | subscribe | unsubscribe | workers | routerNack | take |
    run | removeMember =>
      exact hI.frame (.of_eq rfl rfl rfl rfl
        ⟨[], (List.append_nil _).symm, by simp⟩)
  | resolve | finishNow =>
      exact hI.frame (.of_eq rfl rfl rfl rfl
        ⟨[_], rfl, by simp [Out.toWorkers]⟩)
  | request => exact publishes_request hout _ _ _ _
  | routerAck ha hw =>
      rw [onRouterAck_eq hwf.router _ hw]
      exact hI.frame (.of_eq rfl rfl rfl rfl
        ⟨[_], rfl, by simp [Out.toWorkers]⟩)
  | @finish i uuid k =>
      exact hI.frame (.of_eq rfl rfl rfl rfl
        ⟨[.routerCleared uuid, .onEnded uuid], List.append_assoc _ [_] [_],
          by simp [Out.toWorkers]⟩)
  | @beginEnd _ uuid space r =>
      obtain ⟨transports, routers, l, heq, hl⟩ := remove_eq c r
      rw [heq]
      refine hI.frame (.of_eq rfl rfl rfl rfl ⟨l, rfl, fun o ho => ?_⟩)
      obtain ⟨uuid', rfl⟩ := hl o ho
      rfl
  | join => exact publishes_join hwf.transport hout _ _ _ _ _

/-- **What a stretch publishes.** -/
theorem publishes_act {base c : Coord κ} {a : Action κ}
    (hwf : CoordWF base) (hout : base.out = []) (h : base.act a = some c) :
    Publishes base a c :=
  act_invariant (Publishes base a) (publishes_refl hout) h
    fun _ _ he hI => publishes_effect hwf hout he hI

end Stretches

end Twolk.Coordinator
