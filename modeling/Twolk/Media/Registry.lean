/-
  Twolk.Media.Registry
  ────────────────────
  **WHAT ONE WORKER KNOWS AND WHAT THE COORDINATOR RECORDS AGREE.**

  `Agrees c w` relates the tables of worker `w` to the records of the
  coordinator `c`: every transport being created or registered is on the
  router, and in the table, that its record asks for.  It is kept when the
  coordinator's records grow, when the worker takes the messages of a
  stretch (`received`), and when a media operation ends (`mediaStep`).
-/
import Twolk.Media.Cluster
import Twolk.Worker.Setup
import Twolk.Coordinator.Published

namespace Twolk.Media

open Twolk.Lib

variable {κ : Type}

/-! ## §1. A worker's tables. -/

/-- The transports in the producer (consumer) table of router `r`. -/
def tableOf (w : SfuWorker κ) (r : RouterId) (isProducer : Bool) :
    List TransportId :=
  match w.transportTables r with
  | none => []
  | some (producers, consumers) =>
      if isProducer then producers.keys else consumers.keys

/-- The worker's tables are what the coordinator's records ask for. -/
structure Agrees (c : Coordinator.Coord κ) (w : SfuWorker κ) : Prop where
  setup : Worker.SetupWF w
  routerIds : ∀ r ∈ w.assignedRouters.keys, r < c.routerIdGen
  transportIds : ∀ t ∈ w.assignedTransports.keys, t < c.transportIdGen
  created : ∀ r rtpCapabilities, .routerCreated r rtpCapabilities ∈ w.tasks →
    r ∈ w.assignedRouters.keys
  creating : ∀ r t isProducer,
    .createWebRtcTransport r t isProducer ∈ w.operations →
    ∃ T, c.transportHeap.get? t = some T ∧ T.owningRouter = r ∧
      T.consumesFromTransportId.isNone = isProducer
  registered : ∀ t X, w.transports.get? t = some X →
    ∃ T, c.transportHeap.get? t = some T ∧ T.owningRouter = X.router
  tables : ∀ r isProducer t, t ∈ tableOf w r isProducer ↔
    ∃ X T, w.transports.get? t = some X ∧ X.router = r ∧
      c.transportHeap.get? t = some T ∧
      T.consumesFromTransportId.isNone = isProducer

/-- The worker holds transport `t` as its record `T` asks for. -/
def Hosts (w : SfuWorker κ) (t : TransportId) (T : Coordinator.Transport) :
    Prop :=
  ∃ X R, w.transports.get? t = some X ∧ X.router = T.owningRouter ∧
    w.routers.get? T.owningRouter = some R ∧
    (t ∈ R.webRtcProducerTransports.keys ↔
      T.consumesFromTransportId = none) ∧
    (t ∈ R.webRtcConsumerTransports.keys ↔
      T.consumesFromTransportId ≠ none)

section Agrees

variable {c c' : Coordinator.Coord κ} {w w' : SfuWorker κ}

/-- A registered transport is an assigned one. -/
theorem assigned_of_registered (h : Worker.SetupWF w) {t : TransportId}
    (ht : t ∈ w.transports.keys) : t ∈ w.assignedTransports.keys := by
  have h := h.transportOnce t
  by_contra hn
  rw [if_pos ht, if_neg hn] at h
  omega

/-- A router that is there has been assigned. -/
theorem assigned_of_router (h : Worker.SetupWF w) {r : RouterId}
    (hr : r ∈ w.routers.keys) : r ∈ w.assignedRouters.keys := by
  have h := h.routerOnce r
  by_contra hn
  rw [if_pos hr, if_neg hn] at h
  omega

/-- A registered transport is hosted as its record asks for. -/
theorem Agrees.hosts (h : Agrees c w) {t : TransportId}
    {T : Coordinator.Transport} (ht : t ∈ w.transports.keys)
    (hT : c.transportHeap.get? t = some T) : Hosts w t T := by
  obtain ⟨X, hX⟩ := Option.isSome_iff_exists.mp (JsMap.mem_keys.mp ht)
  obtain ⟨T', hT', hr⟩ := h.registered t X hX
  cases hT.symm.trans hT'
  obtain ⟨R, hR⟩ := Option.isSome_iff_exists.mp
    (JsMap.mem_keys.mp (h.setup.transportRouter t X hX))
  rw [← hr] at hR
  have htable : ∀ isProducer, t ∈ tableOf w T.owningRouter isProducer ↔
      T.consumesFromTransportId.isNone = isProducer := by
    intro isProducer
    rw [h.tables]
    constructor
    · rintro ⟨X', T', -, -, hT', hp⟩
      cases hT.symm.trans hT'
      exact hp
    · exact fun hp => ⟨X, T, hX, hr.symm, hT, hp⟩
  have htables : w.transportTables T.owningRouter
      = some (R.webRtcProducerTransports, R.webRtcConsumerTransports) := by
    rw [Worker.SfuWorker.transportTables, hR]
    rfl
  simp only [tableOf, htables] at htable
  refine ⟨X, R, hX, hr.symm, hR, (htable true).trans ?_,
    (htable false).trans ?_⟩
  · exact Option.isNone_iff_eq_none
  · rw [Option.isNone_eq_false_iff, Option.isSome_iff_ne_none]

/-- A worker still agrees when the coordinator's records have grown. -/
theorem Agrees.grow (h : Agrees c w)
    (hr : c.routerIdGen ≤ c'.routerIdGen)
    (ht : c.transportIdGen ≤ c'.transportIdGen)
    (hshape : ∀ t T, c.transportHeap.get? t = some T →
      ∃ T', c'.transportHeap.get? t = some T' ∧ T'.shape = T.shape) :
    Agrees c' w where
  setup := h.setup
  routerIds r hm := Nat.lt_of_lt_of_le (h.routerIds r hm) hr
  transportIds t hm := Nat.lt_of_lt_of_le (h.transportIds t hm) ht
  created := h.created
  creating r t isProducer hop := by
    obtain ⟨T, hT, hr, hp⟩ := h.creating r t isProducer hop
    obtain ⟨T', hT', hs⟩ := hshape t T hT
    obtain ⟨hr', hp'⟩ := Prod.mk.inj hs
    exact ⟨T', hT', hr'.trans hr, hp' ▸ hp⟩
  registered t X hX := by
    obtain ⟨T, hT, hr⟩ := h.registered t X hX
    obtain ⟨T', hT', hs⟩ := hshape t T hT
    exact ⟨T', hT', (Prod.mk.inj hs).1.trans hr⟩
  tables r isProducer t := by
    rw [h.tables]
    constructor
    · rintro ⟨X, T, hX, hr, hT, hp⟩
      obtain ⟨T', hT', hs⟩ := hshape t T hT
      exact ⟨X, T', hX, hr, hT', (Prod.mk.inj hs).2 ▸ hp⟩
    · rintro ⟨X, T', hX, hr, hT', hp⟩
      obtain ⟨T, hT, -⟩ := h.registered t X hX
      obtain ⟨T'', hT'', hs⟩ := hshape t T hT
      cases hT'.symm.trans hT''
      exact ⟨X, T, hX, hr, hT, (Prod.mk.inj hs).2 ▸ hp⟩

/-- It agrees as long as its own setup is unchanged. -/
theorem Agrees.frame (h : Agrees c w) (hf : Worker.SetupFrame w w') :
    Agrees c w' where
  setup := hf.wf h.setup
  routerIds := by
    rw [hf.assignedRouters]
    exact h.routerIds
  transportIds := by
    rw [hf.assignedTransports]
    exact h.transportIds
  created r caps ht := by
    rw [hf.assignedRouters]
    exact h.created r caps ((hf.mem_tasks rfl).mp ht)
  creating r t isProducer hop :=
    h.creating r t isProducer ((hf.mem_operations rfl).mp hop)
  registered := by
    rw [hf.transports]
    exact h.registered
  tables r isProducer t := by
    rw [hf.transports, tableOf, hf.tables]
    exact h.tables r isProducer t

end Agrees

/-! ## §2. Taking the messages of a stretch. -/

/-- The observation is the start of update `n`. -/
def handles (n : Nat) : Worker.Out (UpdateCallback κ) → Bool
  | .handled caller => caller.cb.request == n
  | _ => false

/-- The message is update `n`, for a transport of this worker. -/
def takes (w : SfuWorker κ) (n : Nat) : Coordinator.Out κ → Bool
  | .transportUpdate request id _ _ => request == n && w.transports.has id
  | _ => false

/-- What taking the messages `l` does to worker `w`. -/
structure Received (c : Coordinator.Coord κ) (w : SfuWorker κ)
    (l : List (Coordinator.Out κ)) (w' : SfuWorker κ) : Prop where
  agrees : Agrees c w'
  workerId : w'.workerId = w.workerId
  transports : w'.transports = w.transports
  routers : ∀ r, r ∈ w'.routers.keys ↔ r ∈ w.routers.keys
  assignedRouters : ∀ r ∈ w'.assignedRouters.keys,
    r ∈ w.assignedRouters.keys ∨ .newRouterRequest r w.workerId ∈ l
  keptRouters : ∀ r ∈ w.assignedRouters.keys, r ∈ w'.assignedRouters.keys
  assignedTransports : ∀ t ∈ w'.assignedTransports.keys,
    t ∈ w.assignedTransports.keys ∨ ∃ r isProducer,
      .newWebRtcTransportRequest r t isProducer ∈ l ∧ r ∈ w.routers.keys
  keptTransports : ∀ t ∈ w.assignedTransports.keys,
    t ∈ w'.assignedTransports.keys
  out : ∃ m, w'.out = w.out ++ m ∧
    (∀ o ∈ m, o.ofOwner = true → ∃ caller, o = .handled caller) ∧
    ∀ n, m.countP (handles n) = l.countP (takes w n)

/-- What the messages of a stretch ask for can be created. -/
structure Fresh (c : Coordinator.Coord κ) (w : SfuWorker κ)
    (l : List (Coordinator.Out κ)) : Prop where
  routers : (l.filterMap Coordinator.Out.routerAsked).Nodup
  newRouters : ∀ r ∈ l.filterMap Coordinator.Out.routerAsked,
    r ∉ w.assignedRouters.keys ∧ r < c.routerIdGen
  transports : (l.filterMap Coordinator.Out.transportAsked).Nodup
  newTransports : ∀ t ∈ l.filterMap Coordinator.Out.transportAsked,
    t ∉ w.assignedTransports.keys ∧ t < c.transportIdGen
  request : ∀ r t isProducer,
    .newWebRtcTransportRequest r t isProducer ∈ l →
    ∃ T, c.transportHeap.get? t = some T ∧ T.owningRouter = r ∧
      isProducer = T.consumesFromTransportId.isNone

section Receive

variable {c : Coordinator.Coord κ} {w w₁ w' : SfuWorker κ}
  {o : Coordinator.Out κ} {l : List (Coordinator.Out κ)}

theorem Fresh.head (h : Fresh c w (o :: l)) : Fresh c w [o] where
  routers := h.routers.sublist
    (List.Sublist.filterMap _ (List.singleton_sublist.mpr List.mem_cons_self))
  newRouters r hr := h.newRouters r (by
    simp only [List.mem_filterMap, List.mem_singleton] at hr
    obtain ⟨_, rfl, hr⟩ := hr
    exact List.mem_filterMap.mpr ⟨_, List.mem_cons_self, hr⟩)
  transports := h.transports.sublist
    (List.Sublist.filterMap _ (List.singleton_sublist.mpr List.mem_cons_self))
  newTransports t ht := h.newTransports t (by
    simp only [List.mem_filterMap, List.mem_singleton] at ht
    obtain ⟨_, rfl, ht⟩ := ht
    exact List.mem_filterMap.mpr ⟨_, List.mem_cons_self, ht⟩)
  request r t isProducer hm := h.request r t isProducer (by
    rw [List.mem_singleton] at hm
    exact hm ▸ List.mem_cons_self)

theorem Received.refl (h : Agrees c w) : Received c w [] w where
  agrees := h
  workerId := rfl
  transports := rfl
  routers _ := Iff.rfl
  assignedRouters _ h := .inl h
  keptRouters _ h := h
  assignedTransports _ h := .inl h
  keptTransports _ h := h
  out := ⟨[], (List.append_nil _).symm, by simp, fun _ => rfl⟩

/-- One message, then the others. -/
theorem Received.cons (h : Received c w [o] w₁) (h' : Received c w₁ l w') :
    Received c w (o :: l) w' where
  agrees := h'.agrees
  workerId := h'.workerId.trans h.workerId
  transports := h'.transports.trans h.transports
  routers r := (h'.routers r).trans (h.routers r)
  assignedRouters r hr := by
    rcases h'.assignedRouters r hr with hr | hr
    · refine (h.assignedRouters r hr).imp_right fun hm => ?_
      exact List.mem_singleton.mp hm ▸ List.mem_cons_self
    · rw [h.workerId] at hr
      exact .inr (List.mem_cons_of_mem _ hr)
  keptRouters r hr := h'.keptRouters r (h.keptRouters r hr)
  assignedTransports t ht := by
    rcases h'.assignedTransports t ht with ht | ⟨r, isProducer, hm, hr⟩
    · refine (h.assignedTransports t ht).imp_right ?_
      rintro ⟨r, isProducer, hm, hr⟩
      exact ⟨r, isProducer, List.mem_singleton.mp hm ▸ List.mem_cons_self, hr⟩
    · exact .inr ⟨r, isProducer, List.mem_cons_of_mem _ hm,
        (h.routers r).mp hr⟩
  keptTransports t ht := h'.keptTransports t (h.keptTransports t ht)
  out := by
    obtain ⟨m, hm, hs, hc⟩ := h.out
    obtain ⟨m', hm', hs', hc'⟩ := h'.out
    refine ⟨m ++ m', by rw [hm', hm, List.append_assoc], fun o ho => ?_,
      fun n => ?_⟩
    · exact (List.mem_append.mp ho).elim (hs o) (hs' o)
    · have ht : takes w₁ n = takes w n := by
        funext o
        cases o <;> first | rfl | simp [takes, h.transports]
      rw [List.countP_append, hc, hc', ht, ← List.countP_append]
      rfl

/-- A message for another worker changes nothing here. -/
theorem Received.skip (h : Agrees c w) (ho : ∀ n, takes w n o = false) :
    Received c w [o] w :=
  { Received.refl h with
    assignedRouters := fun _ h => .inl h
    assignedTransports := fun _ h => .inl h
    out := ⟨[], (List.append_nil _).symm, by simp, fun n => by
      simp [ho]⟩ }

/-- A router request for this worker is taken up. -/
theorem Received.router (h : Agrees c w) {r : RouterId}
    (hn : r ∉ w.assignedRouters.keys) (hr : r < c.routerIdGen) :
    Received c w [.newRouterRequest r w.workerId] ({ w with
      assignedRouters := JsSet.add w.assignedRouters r }.start
        (.createRouter r)) where
  agrees :=
    { h with
      setup := h.setup.createRouter hn
      routerIds := fun r' hr' => by
        rcases JsSet.mem_keys_add.mp hr' with rfl | hr'
        · exact hr
        · exact h.routerIds r' hr'
      created := fun r' caps ht =>
        JsSet.mem_keys_add.mpr (.inr (h.created r' caps ht))
      creating := fun r' t isProducer hop => by
        rcases List.mem_append.mp hop with hop | hop
        · exact h.creating r' t isProducer hop
        · cases List.mem_singleton.mp hop }
  workerId := rfl
  transports := rfl
  routers _ := Iff.rfl
  assignedRouters r' hr' := by
    rcases JsSet.mem_keys_add.mp hr' with rfl | hr'
    · exact .inr (List.mem_singleton.mpr rfl)
    · exact .inl hr'
  keptRouters r' hr' := JsSet.mem_keys_add.mpr (.inr hr')
  assignedTransports _ ht := .inl ht
  keptTransports _ ht := ht
  out := ⟨[], (List.append_nil _).symm, by simp, fun _ => rfl⟩

/-- A transport request for a router of this worker. -/
theorem Received.transport (h : Agrees c w) {r : RouterId} {t : TransportId}
    {isProducer : Bool} (hr : r ∈ w.routers.keys)
    (hn : t ∉ w.assignedTransports.keys) (ht : t < c.transportIdGen)
    (hT : ∃ T, c.transportHeap.get? t = some T ∧ T.owningRouter = r ∧
      isProducer = T.consumesFromTransportId.isNone) :
    Received c w [.newWebRtcTransportRequest r t isProducer] ({ w with
      assignedTransports := JsSet.add w.assignedTransports t }.start
        (.createWebRtcTransport r t isProducer)) where
  agrees :=
    { h with
      setup := h.setup.createTransport hr hn
      transportIds := fun t' ht' => by
        rcases JsSet.mem_keys_add.mp ht' with rfl | ht'
        · exact ht
        · exact h.transportIds t' ht'
      creating := fun r' t' isProducer' hop => by
        rcases List.mem_append.mp hop with hop | hop
        · exact h.creating r' t' isProducer' hop
        · cases List.mem_singleton.mp hop
          obtain ⟨T, hT, hr, hp⟩ := hT
          exact ⟨T, hT, hr, hp.symm⟩ }
  workerId := rfl
  transports := rfl
  routers _ := Iff.rfl
  assignedRouters _ hr' := .inl hr'
  keptRouters _ hr' := hr'
  assignedTransports t' ht' := by
    rcases JsSet.mem_keys_add.mp ht' with rfl | ht'
    · exact .inr ⟨r, isProducer, List.mem_singleton.mpr rfl, hr⟩
    · exact .inl ht'
  keptTransports t' ht' := JsSet.mem_keys_add.mpr (.inr ht')
  out := ⟨[], (List.append_nil _).symm, by simp, fun _ => rfl⟩

variable [Callback κ]

/-- An update of a transport of this worker is handled. -/
theorem Received.update (h : Agrees c w) {id : TransportId}
    {transport : Worker.WebRtcTransport}
    (hT : w.transports.get? id = some transport) (n : Nat)
    (update : TransportUpdateC) (cb : κ) :
    Received c w [.transportUpdate n id update cb]
      (w.onTransportUpdate id update ⟨n, update, cb⟩) := by
  have hf := Worker.onTransportUpdate_setupFrame hT update
    (⟨n, update, cb⟩ : UpdateCallback κ)
  have hb : Agrees c (w.begin ⟨n, update, cb⟩) :=
    { h with setup := { h.setup with } }
  obtain ⟨m, hm, hs⟩ := hf.out
  -- an update changes no registration, whatever it does
  constructor
  case agrees => exact hb.frame hf
  case workerId => exact hf.workerId
  case transports => exact hf.transports
  case routers => exact hf.mem_routers
  case assignedRouters =>
    intro r hr
    rw [hf.assignedRouters] at hr
    exact .inl hr
  case keptRouters =>
    intro r hr
    rw [hf.assignedRouters]
    exact hr
  case assignedTransports =>
    intro t ht
    rw [hf.assignedTransports] at ht
    exact .inl ht
  case keptTransports =>
    intro t ht
    rw [hf.assignedTransports]
    exact ht
  -- the worker marks it as handled once, and answers for itself only
  case out =>
    refine ⟨.handled ⟨w.requestIdGen, ⟨n, update, cb⟩⟩ :: m, ?_,
      fun o ho hown => ?_, fun n' => ?_⟩
    · rw [hm]
      exact List.append_assoc w.out [_] m
    · rcases List.mem_cons.mp ho with rfl | ho
      · exact ⟨_, rfl⟩
      · rw [hs o ho] at hown
        cases hown
    · have hzero : m.countP (handles n') = 0 := by
        refine List.countP_eq_zero.mpr fun o ho hh => ?_
        have := hs o ho
        cases o <;> first | cases hh | cases this
      have hin : w.transports.has id = true := JsMap.has_iff.mpr ⟨_, hT⟩
      rw [List.countP_cons, hzero, List.countP_singleton]
      simp [handles, takes, hin]

/-- One message is taken up by the worker it concerns, and by no other. -/
theorem received_one (h : Agrees c w) (hf : Fresh c w [o]) :
    Received c w [o] (Cluster.receive w o) := by
  cases o with
  | newRouterRequest r workerId =>
      obtain ⟨hn, hr⟩ := hf.newRouters r (by simp [Coordinator.Out.routerAsked])
      show Received c w _ (w.onNewRouterRequest r workerId)
      unfold Worker.SfuWorker.onNewRouterRequest
      split
      · rename_i hid
        subst hid
        exact .router h hn hr
      · exact .skip h fun _ => rfl
  | newWebRtcTransportRequest r t isProducer =>
      obtain ⟨hn, ht⟩ := hf.newTransports t
        (by simp [Coordinator.Out.transportAsked])
      show Received c w _ (w.onNewWebRtcTransportRequest r t isProducer)
      unfold Worker.SfuWorker.onNewWebRtcTransportRequest
      split
      · rename_i hr
        exact .transport h (JsMap.has_eq_true_iff_mem.mp hr) hn ht
          (hf.request r t isProducer List.mem_cons_self)
      · exact .skip h fun _ => rfl
  | transportUpdate n id update cb =>
      show Received c w _ (w.onTransportUpdate id update ⟨n, update, cb⟩)
      cases hT : w.transports.get? id with
      | none =>
          unfold Worker.SfuWorker.onTransportUpdate
          rw [hT]
          refine .skip h fun n' => ?_
          simp [takes, JsMap.has_eq_false_iff.mpr hT]
      | some transport => exact .update h hT n update cb
  | _ => exact .skip h fun _ => rfl

/-- **All messages of a stretch** are taken up by the workers they concern. -/
theorem received : ∀ (l : List (Coordinator.Out κ)) (w : SfuWorker κ),
    Agrees c w → Fresh c w l → Received c w l (l.foldl Cluster.receive w)
  | [], _, h, _ => .refl h
  | o :: l, w, h, hf => by
      have hone := received_one h hf.head
      refine hone.cons (received l _ hone.agrees ?_)
      have hsub : l.Sublist (o :: l) := List.sublist_cons_self o l
      refine ⟨hf.routers.sublist (hsub.filterMap _), fun r hr => ?_,
        hf.transports.sublist (hsub.filterMap _), fun t ht => ?_,
        fun r t isProducer hm =>
          hf.request r t isProducer (List.mem_cons_of_mem _ hm)⟩
      · obtain ⟨hn, hlt⟩ := hf.newRouters r
          ((hsub.filterMap _).subset hr)
        refine ⟨fun hr' => ?_, hlt⟩
        rcases hone.assignedRouters r hr' with hr' | hr'
        · exact hn hr'
        · rw [List.mem_singleton] at hr'
          subst hr'
          have hnd : (r :: l.filterMap Coordinator.Out.routerAsked).Nodup :=
            hf.routers
          exact (List.nodup_cons.mp hnd).1 hr
      · obtain ⟨hn, hlt⟩ := hf.newTransports t
          ((hsub.filterMap _).subset ht)
        refine ⟨fun ht' => ?_, hlt⟩
        rcases hone.assignedTransports t ht' with ht' | ⟨r, b, ht', -⟩
        · exact hn ht'
        · rw [List.mem_singleton] at ht'
          subst ht'
          have hnd : (t :: l.filterMap Coordinator.Out.transportAsked).Nodup :=
            hf.transports
          exact (List.nodup_cons.mp hnd).1 ht

end Receive

/-! ## §3. The end of a media operation. -/

/-- The worker owns what the observation is about. -/
def Owned (w : SfuWorker κ) : Worker.Out (UpdateCallback κ) → Prop
  | .routerAck r _ | .routerNack r _ => r ∈ w.assignedRouters.keys
  | .transportAck t _ => t ∈ w.transports.keys
  | .transportNack t _ => t ∈ w.assignedTransports.keys
  | .handled _ => False
  | _ => True

/-- What a step of the worker alone does. -/
structure MediaStep (c : Coordinator.Coord κ) (w w' : SfuWorker κ) : Prop where
  agrees : Agrees c w'
  workerId : w'.workerId = w.workerId
  assignedRouters : w'.assignedRouters = w.assignedRouters
  assignedTransports : w'.assignedTransports = w.assignedTransports
  kept : ∀ t ∈ w.transports.keys, t ∈ w'.transports.keys
  out : ∃ m, w'.out = w.out ++ m ∧ ∀ o ∈ m, Owned w' o

section MediaStep

variable {c : Coordinator.Coord κ} {w w' : SfuWorker κ}

/-- What concerns no owner needs none. -/
theorem owned_of_not_ofOwner {o : Worker.Out (UpdateCallback κ)}
    (h : o.ofOwner = false) : Owned w o := by
  cases o <;> first | exact trivial | cases h

/-- A step of setup that only drops work keeps the agreement. -/
theorem Agrees.drop (h : Agrees c w)
    {operations : List (Worker.Operation (UpdateCallback κ))}
    {tasks : List (Worker.Task (UpdateCallback κ))}
    {out : List (Worker.Out (UpdateCallback κ))}
    (hop : operations.Sublist w.operations) (ht : tasks.Sublist w.tasks) :
    Agrees c { w with operations, tasks, out } :=
  { h with
    setup := h.setup.of_sublist hop
    created := fun r caps hm => h.created r caps (ht.subset hm)
    creating := fun r t b hm => h.creating r t b (hop.subset hm) }

/-- A step that leaves the setup alone. -/
theorem MediaStep.frame (h : Agrees c w) (hf : Worker.SetupFrame w w') :
    MediaStep c w w' where
  agrees := h.frame hf
  workerId := hf.workerId
  assignedRouters := hf.assignedRouters
  assignedTransports := hf.assignedTransports
  kept := by
    rw [hf.transports]
    exact fun _ h => h
  out := by
    obtain ⟨m, hm, hs⟩ := hf.out
    exact ⟨m, hm, fun o ho => owned_of_not_ofOwner (hs o ho)⟩

/-- A router is registered, and its promise is waiting. -/
theorem MediaStep.routerCreated (h : Agrees c w) {i : Nat} {r : RouterId}
    (rtpCapabilities : Json)
    (hop : w.operations[i]? = some (.createRouter r)) :
    MediaStep c w ((w.withoutOperation i).onRouterCreated r
      rtpCapabilities) := by
  obtain ⟨ha, hn, -⟩ := h.setup.of_createRouter hop
  have hdrop : Agrees c (w.withoutOperation i) :=
    h.drop (List.eraseIdx_sublist _ _) (List.Sublist.refl _)
  refine ⟨{ hdrop with
    setup := h.setup.routerCreated _ hop
    created := fun r' caps ht => ?_
    tables := fun r' isProducer t => ?_ }, rfl, rfl, rfl, fun _ h => h, [],
    (List.append_nil _).symm, by simp⟩
  · rcases List.mem_append.mp ht with ht | ht
    · exact h.created r' caps ht
    · cases List.mem_singleton.mp ht
      exact ha
  · refine Iff.trans ?_ (h.tables r' isProducer t)
    by_cases heq : r' = r
    · -- the new router is empty, and no transport was on it
      subst heq
      have hnew : t ∉ tableOf ((w.withoutOperation i).onRouterCreated r'
          rtpCapabilities) r' isProducer := by
        have ht : ((w.withoutOperation i).onRouterCreated r'
            rtpCapabilities).transportTables r' = some (∅, ∅) := by
          show ((w.routers.set r' _).get? r').map _ = _
          rw [JsMap.get?_set_self]
          rfl
        rw [tableOf, ht]
        cases isProducer <;> simp
      refine iff_of_false hnew fun hm => ?_
      obtain ⟨X, T, hX, rfl, -⟩ := (h.tables r' isProducer t).mp hm
      exact hn (h.setup.transportRouter t X hX)
    · have ht : ((w.withoutOperation i).onRouterCreated r
          rtpCapabilities).transportTables r' = w.transportTables r' := by
        show ((w.routers.set r _).get? r').map _ = _
        rw [JsMap.get?_set_of_ne _ _ heq]
        rfl
      rw [tableOf, ht]
      rfl

/-- The new transport comes into one table of its router. -/
theorem tableOf_onTransportCreated {i : Nat} {r : RouterId}
    {t : TransportId} {isProducer : Bool} (params : Json)
    (hr : r ∈ w.routers.keys) (r' : RouterId) (isProducer' : Bool)
    (t' : TransportId) :
    t' ∈ tableOf ((w.withoutOperation i).onTransportCreated r t isProducer
        params) r' isProducer' ↔
      (t' = t ∧ r' = r ∧ isProducer' = isProducer) ∨
        t' ∈ tableOf w r' isProducer' := by
  have htables : ((w.withoutOperation i).onTransportCreated r t isProducer
      params).transportTables r'
      = if r' = r then (w.transportTables r).map fun p =>
          if isProducer then (JsSet.add p.1 t, p.2)
          else (p.1, JsSet.add p.2 t)
        else w.transportTables r' := by
    show ((w.routers.modify r _).get? r').map _ = _
    rw [JsMap.get?_modify]
    split
    · rw [Worker.SfuWorker.transportTables, Option.map_map, Option.map_map]
      refine congrArg (Option.map · _) (funext fun R => ?_)
      cases isProducer <;> rfl
    · rfl
  rw [tableOf, htables, tableOf]
  by_cases heq : r' = r
  · subst heq
    obtain ⟨R, hR⟩ := Option.isSome_iff_exists.mp (JsMap.mem_keys.mp hr)
    have hw : w.transportTables r'
        = some (R.webRtcProducerTransports, R.webRtcConsumerTransports) := by
      rw [Worker.SfuWorker.transportTables, hR]
      rfl
    rw [if_pos rfl, hw]
    cases isProducer <;> cases isProducer' <;>
      simp [JsSet.mem_keys_add]
  · rw [if_neg heq]
    simp [heq]

/-- A transport is registered, and the coordinator is told. -/
theorem MediaStep.transportCreated (h : Agrees c w) {i : Nat} {r : RouterId}
    {t : TransportId} {isProducer : Bool} (params : Json)
    (hop : w.operations[i]?
      = some (.createWebRtcTransport r t isProducer)) :
    MediaStep c w ((w.withoutOperation i).onTransportCreated r t isProducer
      params) := by
  -- the operation was the only one for its id
  obtain ⟨-, hn, -⟩ := h.setup.of_createTransport hop
  obtain ⟨T, hT, hTr, hTp⟩ :=
    h.creating r t isProducer (List.mem_of_getElem? hop)
  have hr := h.setup.creatingOn r t isProducer (List.mem_of_getElem? hop)
  have hdrop : Agrees c (w.withoutOperation i) :=
    h.drop (List.eraseIdx_sublist _ _) (List.Sublist.refl _)
  -- the new transport is registered, and no other is touched
  have hget : ∀ t', ((w.withoutOperation i).onTransportCreated r t
      isProducer params).transports.get? t'
      = if t' = t then some ⟨t, params, r⟩ else w.transports.get? t' :=
    fun t' => JsMap.get?_set _ _ _ _
  have hnone : w.transports.get? t = none := JsMap.get?_eq_none_iff.mpr hn
  refine ⟨{ hdrop with
    setup := h.setup.transportCreated _ hop
    registered := fun t' X hX => ?_
    tables := fun r' isProducer' t' => ?_ }, rfl, rfl, rfl, fun t' ht' => ?_,
    [.transportAck t params], rfl, fun o ho => ?_⟩
  -- it is on the router the coordinator has assigned
  · rw [hget] at hX
    split at hX
    · rename_i heq
      cases hX
      exact ⟨T, heq ▸ hT, hTr⟩
    · exact h.registered t' X hX
  -- the tables list it under its direction
  · rw [tableOf_onTransportCreated params hr, h.tables]
    constructor
    · rintro (⟨rfl, rfl, rfl⟩ | ⟨X, T', hX, hXr, hT', hp⟩)
      · exact ⟨_, T, by rw [hget, if_pos rfl], rfl, hT, hTp⟩
      · refine ⟨X, T', ?_, hXr, hT', hp⟩
        rw [hget, if_neg, hX]
        rintro rfl
        rw [hnone] at hX
        cases hX
    · rintro ⟨X, T', hX, hXr, hT', hp⟩
      rw [hget] at hX
      split at hX
      · rename_i heq
        subst heq
        cases hX
        cases hT.symm.trans hT'
        exact .inl ⟨rfl, hXr.symm, hp.symm.trans hTp⟩
      · exact .inr ⟨X, T', hX, hXr, hT', hp⟩
  · exact JsMap.mem_keys_set.mpr (.inr ht')
  · cases List.mem_singleton.mp ho
    exact JsMap.mem_keys_set.mpr (.inl rfl)

/-- **What a step of the worker alone does.** -/
theorem mediaStep [Callback κ] (h : Agrees c w)
    {a : Worker.Action (UpdateCallback κ)} (hm : isMessage a = false)
    (hs : w.act a = some w') : MediaStep c w w' := by
  cases Worker.act_stretch hs with
  | skip => exact .frame h (.refl w)
  | update ha | createRouter ha | createTransport ha =>
      rw [ha] at hm
      cases hm
  | settled hop hset hres =>
      exact .frame h (Worker.settled_setupFrame hop hset hres)
  | attempted ht => exact .frame h (Worker.attempted_setupFrame ht)
  | routerCreated hop => exact .routerCreated h _ hop
  | transportCreated hop => exact .transportCreated h _ hop
  | @routerFailed i r message hop =>
      refine ⟨h.drop (List.eraseIdx_sublist _ _) (List.Sublist.refl _), rfl,
        rfl, rfl, fun _ h => h, [_], rfl, fun o ho => ?_⟩
      cases List.mem_singleton.mp ho
      exact (h.setup.of_createRouter hop).1
  | @transportFailed i r t isProducer message hop =>
      refine ⟨h.drop (List.eraseIdx_sublist _ _) (List.Sublist.refl _), rfl,
        rfl, rfl, fun _ h => h, [_], rfl, fun o ho => ?_⟩
      cases List.mem_singleton.mp ho
      exact (h.setup.of_createTransport hop).1
  | @routerAcked i r rtpCapabilities ht =>
      refine ⟨h.drop (List.Sublist.refl _) (List.eraseIdx_sublist _ _), rfl,
        rfl, rfl, fun _ h => h, [_], rfl, fun o ho => ?_⟩
      cases List.mem_singleton.mp ho
      exact h.created r _ (List.mem_of_getElem? ht)

end MediaStep

end Twolk.Media
