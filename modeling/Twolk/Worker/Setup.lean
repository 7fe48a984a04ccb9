/-
  Twolk.Worker.Setup
  ──────────────────
  **ROUTERS AND TRANSPORTS ARE SET UP ONCE.**

  Setup is creating routers and transports; a transport update is not, and
  `SetupFrame` says that it leaves setup alone: tables, assigned ids, setup
  operations and setup answers.  Under the ids the coordinator hands out,
  each id is created at most once (`SetupWF`), so a transport registered
  under an id stays the transport of that id.
-/
import Twolk.Worker.SfuWorker

namespace Twolk.Worker

open Twolk.Lib

variable {κ : Type}

/-! ## §1. Setup. -/

/-- The operation creates a router or a transport. -/
def Operation.isSetup : Operation κ → Bool
  | .createRouter _ | .createWebRtcTransport .. => true
  | _ => false

/-- The continuation finishes the creation of a router. -/
def Task.isSetup : Task κ → Bool
  | .routerCreated .. => true
  | .attempted .. => false

/-- Observations only the owner of an id makes: the answer to a setup
request, and the start of an update. -/
def Out.ofOwner : Out κ → Bool
  | .routerAck .. | .routerNack .. | .transportAck .. | .transportNack .. |
    .handled _ => true
  | _ => false

/-- The operation creates router `id`. -/
def Operation.createsRouter (id : RouterId) : Operation κ → Bool
  | .createRouter id' => id' == id
  | _ => false

/-- The operation creates transport `id`. -/
def Operation.createsTransport (id : TransportId) : Operation κ → Bool
  | .createWebRtcTransport _ id' _ => id' == id
  | _ => false

/-- The producer and consumer tables of a router. -/
def SfuWorker.transportTables (w : SfuWorker κ) (r : RouterId) :
    Option (JsSet TransportId × JsSet TransportId) :=
  (w.routers.get? r).map fun R =>
    (R.webRtcProducerTransports, R.webRtcConsumerTransports)

/-- From `w` to `w'` no router or transport is set up. -/
structure SetupFrame (w w' : SfuWorker κ) : Prop where
  workerId : w'.workerId = w.workerId
  tables : ∀ r, w'.transportTables r = w.transportTables r
  transports : w'.transports = w.transports
  assignedRouters : w'.assignedRouters = w.assignedRouters
  assignedTransports : w'.assignedTransports = w.assignedTransports
  operations : w'.operations.filter Operation.isSetup
    = w.operations.filter Operation.isSetup
  tasks : w'.tasks.filter Task.isSetup = w.tasks.filter Task.isSetup
  out : ∃ l, w'.out = w.out ++ l ∧ ∀ o ∈ l, o.ofOwner = false

namespace SetupFrame

variable {w w' w'' : SfuWorker κ}

theorem refl (w : SfuWorker κ) : SetupFrame w w where
  workerId := rfl
  tables _ := rfl
  transports := rfl
  assignedRouters := rfl
  assignedTransports := rfl
  operations := rfl
  tasks := rfl
  out := ⟨[], (List.append_nil _).symm, by simp⟩

theorem trans (h : SetupFrame w w') (h' : SetupFrame w' w'') :
    SetupFrame w w'' where
  workerId := h'.workerId.trans h.workerId
  tables r := (h'.tables r).trans (h.tables r)
  transports := h'.transports.trans h.transports
  assignedRouters := h'.assignedRouters.trans h.assignedRouters
  assignedTransports := h'.assignedTransports.trans h.assignedTransports
  operations := h'.operations.trans h.operations
  tasks := h'.tasks.trans h.tasks
  out := by
    obtain ⟨l, hl, hs⟩ := h.out
    obtain ⟨l', hl', hs'⟩ := h'.out
    refine ⟨l ++ l', by rw [hl', hl, List.append_assoc], fun o ho => ?_⟩
    exact (List.mem_append.mp ho).elim (hs o) (hs' o)

/-- A step that sets nothing up keeps the routers. -/
theorem mem_routers (h : SetupFrame w w') (r : RouterId) :
    r ∈ w'.routers.keys ↔ r ∈ w.routers.keys := by
  have := congrArg Option.isSome (h.tables r)
  simp only [SfuWorker.transportTables, Option.isSome_map] at this
  rw [JsMap.mem_keys, JsMap.mem_keys, this]

theorem mem_operations (h : SetupFrame w w') {op : Operation κ}
    (hop : op.isSetup = true) : op ∈ w'.operations ↔ op ∈ w.operations := by
  have := congrArg (op ∈ ·) h.operations
  simpa [hop] using this

theorem mem_tasks (h : SetupFrame w w') {t : Task κ}
    (ht : t.isSetup = true) : t ∈ w'.tasks ↔ t ∈ w.tasks := by
  have := congrArg (t ∈ ·) h.tasks
  simpa [ht] using this

/-- Setup operations are counted as before. -/
theorem countP_operations (h : SetupFrame w w') {p : Operation κ → Bool}
    (hp : ∀ op, p op = true → op.isSetup = true) :
    w'.operations.countP p = w.operations.countP p := by
  have heq : ∀ l : List (Operation κ),
      l.countP p = (l.filter Operation.isSetup).countP p := by
    intro l
    rw [List.countP_filter]
    refine List.countP_congr fun op _ => ?_
    simp only [Bool.and_eq_true]
    exact ⟨fun h => ⟨h, hp op h⟩, fun h => h.1⟩
  rw [heq, h.operations, ← heq]

end SetupFrame

/-! ## §2. Transport updates are no setup. -/

/-- The update of request `w.requestIdGen` begins. -/
def SfuWorker.begin (w : SfuWorker κ) (cb : κ) : SfuWorker κ :=
  { w with requestIdGen := w.requestIdGen + 1 }.emit
    (.handled ⟨w.requestIdGen, cb⟩)

/-- What a worker says sets nothing up. -/
theorem emit_setupFrame (w : SfuWorker κ) {o : Out κ}
    (ho : o.ofOwner = false) : SetupFrame w (w.emit o) :=
  { SetupFrame.refl w with out := ⟨[o], rfl, by simpa using ho⟩ }

theorem start_setupFrame (w : SfuWorker κ) {op : Operation κ}
    (hop : op.isSetup = false) : SetupFrame w (w.start op) :=
  { SetupFrame.refl w with
    operations := by simp [SfuWorker.start, List.filter_append, hop] }

theorem defer_setupFrame (w : SfuWorker κ) {t : Task κ}
    (ht : t.isSetup = false) : SetupFrame w (w.defer t) :=
  { SetupFrame.refl w with
    tasks := by simp [SfuWorker.defer, List.filter_append, ht] }

/-- Changing what a router produces and consumes. -/
theorem modifyRouter_setupFrame (w : SfuWorker κ) (r : RouterId)
    {f : Router → Router}
    (hp : ∀ R, (f R).webRtcProducerTransports = R.webRtcProducerTransports)
    (hc : ∀ R, (f R).webRtcConsumerTransports = R.webRtcConsumerTransports) :
    SetupFrame w { w with routers := w.routers.modify r f } :=
  { SetupFrame.refl w with
    tables := fun r' => by
      simp only [SfuWorker.transportTables, JsMap.get?_modify]
      split
      · rename_i h
        subst h
        rw [Option.map_map]
        refine congrArg (Option.map · _) (funext fun R => ?_)
        simp [hp, hc]
      · rfl }

section Answers

variable [Callback κ] (w : SfuWorker κ) (caller : Caller κ)

/-- Nor does a nack. -/
theorem nackSync_setupFrame (error : UpdateError) :
    SetupFrame w (w.nackSync caller error) := by
  unfold SfuWorker.nackSync
  have h := emit_setupFrame w (o := .nack caller error) rfl
  dsimp only
  split
  · exact h
  · exact h.trans (emit_setupFrame _ rfl)

theorem nackCatch_setupFrame (error : UpdateError) :
    SetupFrame w (w.nackCatch caller error) := by
  unfold SfuWorker.nackCatch
  have h := emit_setupFrame w (o := .nack caller error) rfl
  dsimp only
  split
  · exact h
  · exact h.trans (emit_setupFrame _ rfl)

theorem nackThen_setupFrame (error : UpdateError) :
    SetupFrame w (w.nackThen caller error) := by
  unfold SfuWorker.nackThen
  have h := emit_setupFrame w (o := .nack caller error) rfl
  dsimp only
  split
  · exact h
  · exact h.trans (nackCatch_setupFrame _ _ _)

/-- Nor does an ack, if what follows does not. -/
theorem ackThen_setupFrame (resp : Option TransportUpdateAck)
    {k : SfuWorker κ → SfuWorker κ} (hk : ∀ w, SetupFrame w (k w)) :
    SetupFrame w (w.ackThen caller resp k) := by
  unfold SfuWorker.ackThen
  have h := emit_setupFrame w (o := .ack caller resp) rfl
  dsimp only
  split
  · exact h.trans (hk _)
  · exact h.trans (nackCatch_setupFrame _ _ _)

end Answers

/-- Nor does a consume. -/
theorem consumeAndAck_setupFrame (w : SfuWorker κ) (p : PendingConsume κ) :
    SetupFrame w (w.consumeAndAck p) := by
  unfold SfuWorker.consumeAndAck
  split
  · exact defer_setupFrame w rfl
  · exact (emit_setupFrame w rfl).trans (start_setupFrame _ rfl)

theorem flush_setupFrame (w : SfuWorker κ) (transport : TransportId) :
    SetupFrame w (w.flush transport) := by
  unfold SfuWorker.flush
  split
  · exact .refl w
  · rename_i pending hp
    clear hp
    have h : SetupFrame w { w with
        pendingConsumes := w.pendingConsumes.delete transport } :=
      { SetupFrame.refl w with }
    refine h.trans ?_
    generalize { w with
      pendingConsumes := w.pendingConsumes.delete transport } = d
    induction pending generalizing d with
    | nil => exact .refl d
    | cons p pending ih =>
        rw [List.foldl_cons]
        exact (consumeAndAck_setupFrame d p).trans (ih _)

section Handlers

variable [Callback κ]

theorem onConsume_setupFrame (w : SfuWorker κ) (transport : WebRtcTransport)
    (rtpCapabilities : Json) (producing : TransportId)
    (caller : Caller κ) :
    SetupFrame w
      (w.onConsume transport rtpCapabilities producing caller) := by
  unfold SfuWorker.onConsume
  split
  · exact nackSync_setupFrame w caller _
  · split
    · exact nackSync_setupFrame w caller _
    · have h := modifyRouter_setupFrame w transport.router
        (f := fun r => { r with
          producerToConsumersSet :=
            r.producerToConsumersSet.addTo producing transport.id })
        (fun _ => rfl) (fun _ => rfl)
      have h := h.trans
        (emit_setupFrame _ (o := .accepted caller.request producing) rfl)
      dsimp only
      split
      · exact h.trans { SetupFrame.refl _ with }
      · exact h.trans (consumeAndAck_setupFrame _ _)

/-- A transport update, once begun, sets nothing up. -/
theorem onTransportUpdate_setupFrame {w : SfuWorker κ} {id : TransportId}
    {transport : WebRtcTransport} (hT : w.transports.get? id = some transport)
    (update : TransportUpdateC) (cb : κ) :
    SetupFrame (w.begin cb) (w.onTransportUpdate id update cb) := by
  unfold SfuWorker.onTransportUpdate
  rw [hT]
  cases update with
  | transportConnectEvent | transportProducerProduceEvent =>
      exact start_setupFrame _ rfl
  | transportConsumerConsumeEvent => exact onConsume_setupFrame _ _ _ _ _
  | transportConsumerResumeEvent =>
      dsimp only
      split
      · exact nackSync_setupFrame _ _ _
      · exact start_setupFrame _ rfl

/-- A new producer sets nothing up. -/
theorem onProduced_setupFrame (w : SfuWorker κ)
    (transport : WebRtcTransport) (caller : Caller κ)
    (producer : MediaProducer) :
    SetupFrame w (w.onProduced transport caller producer) := by
  have h := modifyRouter_setupFrame w transport.router
    (f := fun r => { r with
      webRtcProducers := r.webRtcProducers.set transport.id producer })
    (fun _ => rfl) (fun _ => rfl)
  exact (h.trans (emit_setupFrame _ rfl)).trans
    (ackThen_setupFrame _ _ _ fun w => flush_setupFrame w _)

omit [Callback κ] in
/-- Nor does a new consumer. -/
theorem onConsumed_setupFrame (w : SfuWorker κ)
    (transport : WebRtcTransport) (caller : Caller κ)
    (consumer : MediaConsumer) :
    SetupFrame w (w.onConsumed transport caller consumer) := by
  have h := modifyRouter_setupFrame w transport.router
    (f := fun r => { r with
      webRtcConsumers := r.webRtcConsumers.set transport.id consumer })
    (fun _ => rfl) (fun _ => rfl)
  exact h.trans (defer_setupFrame _ rfl)

/-- `w` without its `i`-th media operation. -/
def SfuWorker.withoutOperation (w : SfuWorker κ) (i : Nat) : SfuWorker κ :=
  { w with operations := w.operations.eraseIdx i }

/-- `w` without its `i`-th continuation. -/
def SfuWorker.withoutTask (w : SfuWorker κ) (i : Nat) : SfuWorker κ :=
  { w with tasks := w.tasks.eraseIdx i }

/-- The settled promise of an update operation sets nothing up. -/
theorem settled_setupFrame {w w' : SfuWorker κ} {i : Nat}
    {op : Operation κ} (hop : w.operations[i]? = some op)
    (hs : op.isSetup = false)
    (h : (∃ value, SfuWorker.onFulfilled (w.withoutOperation i) op value
        = some w') ∨
      ∃ message, w' = SfuWorker.onRejected (w.withoutOperation i) message
        op) : SetupFrame w w' := by
  have htake : SetupFrame w (w.withoutOperation i) :=
    { SetupFrame.refl w with operations := filter_eraseIdx hop hs }
  refine htake.trans ?_
  generalize w.withoutOperation i = d at h
  rcases h with ⟨value, h⟩ | ⟨message, rfl⟩
  · cases op with
    | createRouter | createWebRtcTransport => cases hs
    | connect | resume =>
        cases value <;> cases h
        exact ackThen_setupFrame d _ _ .refl
    | produce =>
        cases value <;> cases h
        exact onProduced_setupFrame d _ _ _
    | consume =>
        cases value <;> cases h
        exact onConsumed_setupFrame d _ _ _
  · cases op with
    | createRouter | createWebRtcTransport => cases hs
    | connect | produce | consume | resume =>
        exact nackCatch_setupFrame d _ _

/-- The end of a consume sets nothing up. -/
theorem attempted_setupFrame {w : SfuWorker κ} {i : Nat} {caller : Caller κ}
    {consumer : Option MediaConsumer}
    (ht : w.tasks[i]? = some (.attempted caller consumer)) :
    SetupFrame w (SfuWorker.resumeTask (w.withoutTask i)
      (.attempted caller consumer)) := by
  have htake : SetupFrame w (w.withoutTask i) :=
    { SetupFrame.refl w with tasks := filter_eraseIdx ht rfl }
  cases consumer with
  | none => exact htake.trans (nackThen_setupFrame _ _ _)
  | some consumer => exact htake.trans (ackThen_setupFrame _ _ _ .refl)

end Handlers

/-! ## §3. The steps of a worker. -/

/-- The stretch of action `a`: a step of setup, or one about transport
updates. -/
inductive Stretch [Callback κ] (w : SfuWorker κ) (a : Action κ) :
    SfuWorker κ → Prop
  /-- The request is for a different worker. -/
  | skip : Stretch w a w
  | update {id : TransportId} {T : WebRtcTransport}
      {update : TransportUpdateC} {cb : κ}
      (ha : a = .transportUpdate id update cb)
      (hT : w.transports.get? id = some T) :
      Stretch w a (w.onTransportUpdate id update cb)
  | settled {w' : SfuWorker κ} {i : Nat} {op : Operation κ}
      (hop : w.operations[i]? = some op) (hs : op.isSetup = false)
      (h : (∃ value, SfuWorker.onFulfilled (w.withoutOperation i) op value
          = some w') ∨
        ∃ message, w' = SfuWorker.onRejected (w.withoutOperation i) message
          op) : Stretch w a w'
  | attempted {i : Nat} {caller : Caller κ} {consumer : Option MediaConsumer}
      (ht : w.tasks[i]? = some (.attempted caller consumer)) :
      Stretch w a (SfuWorker.resumeTask (w.withoutTask i)
        (.attempted caller consumer))
  | createRouter {id : RouterId}
      (ha : a = .newRouterRequest id w.workerId)
      (hn : id ∉ w.assignedRouters.keys) :
      Stretch w a ({ w with
        assignedRouters := JsSet.add w.assignedRouters id }.start
          (.createRouter id))
  | createTransport {r : RouterId} {id : TransportId} {isProducer : Bool}
      (ha : a = .newWebRtcTransportRequest r id isProducer)
      (hr : r ∈ w.routers.keys) (hn : id ∉ w.assignedTransports.keys) :
      Stretch w a ({ w with
        assignedTransports := JsSet.add w.assignedTransports id }.start
          (.createWebRtcTransport r id isProducer))
  | routerCreated {i : Nat} {id : RouterId} {rtpCapabilities : Json}
      (hop : w.operations[i]? = some (.createRouter id)) :
      Stretch w a ((w.withoutOperation i).onRouterCreated id
        rtpCapabilities)
  | transportCreated {i : Nat} {r : RouterId} {id : TransportId}
      {isProducer : Bool} {params : Json}
      (hop : w.operations[i]?
        = some (.createWebRtcTransport r id isProducer)) :
      Stretch w a ((w.withoutOperation i).onTransportCreated r id
        isProducer params)
  | routerFailed {i : Nat} {id : RouterId} {message : String}
      (hop : w.operations[i]? = some (.createRouter id)) :
      Stretch w a ((w.withoutOperation i).emit (.routerNack id message))
  | transportFailed {i : Nat} {r : RouterId} {id : TransportId}
      {isProducer : Bool} {message : String}
      (hop : w.operations[i]?
        = some (.createWebRtcTransport r id isProducer)) :
      Stretch w a ((w.withoutOperation i).emit (.transportNack id message))
  | routerAcked {i : Nat} {id : RouterId} {rtpCapabilities : Json}
      (ht : w.tasks[i]? = some (.routerCreated id rtpCapabilities)) :
      Stretch w a ((w.withoutTask i).emit (.routerAck id rtpCapabilities))

/-- **What one step can do.** -/
theorem act_stretch [Callback κ] {w w' : SfuWorker κ} {a : Action κ}
    (h : w.act a = some w') : Stretch w a w' := by
  -- one stretch for each action
  cases a with
  | newRouterRequest id workerId =>
      simp only [SfuWorker.act] at h
      split at h
      · cases h
      · rename_i hn
        cases h
        unfold SfuWorker.onNewRouterRequest
        split
        · rename_i hid
          subst hid
          exact .createRouter rfl fun hm =>
            hn (JsMap.has_eq_true_iff_mem.mpr hm)
        · exact .skip
  | newWebRtcTransportRequest r id isProducer =>
      simp only [SfuWorker.act] at h
      split at h
      · cases h
      · rename_i hn
        cases h
        unfold SfuWorker.onNewWebRtcTransportRequest
        split
        · rename_i hr
          exact .createTransport rfl (JsMap.has_eq_true_iff_mem.mp hr)
            fun hm => hn (JsMap.has_eq_true_iff_mem.mpr hm)
        · exact .skip
  | transportUpdate id update cb =>
      cases h
      cases hT : w.transports.get? id with
      | none =>
          unfold SfuWorker.onTransportUpdate
          rw [hT]
          exact .skip
      | some T => exact .update rfl hT
  | fulfilled i value =>
      obtain ⟨op, hop, h⟩ := Option.bind_eq_some_iff.mp h
      cases op with
      | createRouter id =>
          cases value <;> cases h
          exact .routerCreated hop
      | createWebRtcTransport r id isProducer =>
          cases value <;> cases h
          -- an update's operation is of no concern here
          exact .transportCreated hop
      | connect | produce | consume | resume =>
          exact .settled hop rfl (.inl ⟨value, h⟩)
  | rejected i message =>
      obtain ⟨op, hop, rfl⟩ := Option.map_eq_some_iff.mp h
      cases op with
      | createRouter id => exact .routerFailed hop
      | createWebRtcTransport r id isProducer => exact .transportFailed hop
      | connect | produce | consume | resume =>
          exact .settled hop rfl (.inr ⟨message, rfl⟩)
  | resume i =>
      obtain ⟨t, ht, rfl⟩ := Option.map_eq_some_iff.mp h
      cases t with
      | routerCreated id rtpCapabilities => exact .routerAcked ht
      | attempted caller consumer => exact .attempted ht

/-! ## §4. Ids are used once. -/

/-- What the worker relies on when it follows an id. -/
structure SetupWF (w : SfuWorker κ) : Prop where
  /-- An assigned router id is being created, or registered, or failed. -/
  routerOnce : ∀ r, w.operations.countP (Operation.createsRouter r) +
      (if r ∈ w.routers.keys then 1 else 0)
    ≤ if r ∈ w.assignedRouters.keys then 1 else 0
  transportOnce : ∀ t, w.operations.countP (Operation.createsTransport t) +
      (if t ∈ w.transports.keys then 1 else 0)
    ≤ if t ∈ w.assignedTransports.keys then 1 else 0
  transportId : ∀ t T, w.transports.get? t = some T → T.id = t
  transportRouter : ∀ t T, w.transports.get? t = some T →
    T.router ∈ w.routers.keys
  creatingOn : ∀ r t b, .createWebRtcTransport r t b ∈ w.operations →
    r ∈ w.routers.keys

section WF

variable {w w' : SfuWorker κ}

theorem Operation.isSetup_of_createsRouter {r : RouterId}
    {op : Operation κ} (h : op.createsRouter r = true) :
    op.isSetup = true := by
  cases op <;> first | rfl | cases h

theorem Operation.isSetup_of_createsTransport {t : TransportId}
    {op : Operation κ} (h : op.createsTransport t = true) :
    op.isSetup = true := by
  cases op <;> first | rfl | cases h

/-- A step that sets nothing up keeps the invariant. -/
theorem SetupFrame.wf (h : SetupFrame w w') (hI : SetupWF w) :
    SetupWF w' where
  routerOnce r := by
    rw [h.countP_operations fun _ => Operation.isSetup_of_createsRouter,
      h.assignedRouters]
    simp only [h.mem_routers]
    exact hI.routerOnce r
  transportOnce t := by
    rw [h.countP_operations fun _ => Operation.isSetup_of_createsTransport,
      h.assignedTransports, h.transports]
    exact hI.transportOnce t
  transportId := by
    rw [h.transports]
    exact hI.transportId
  transportRouter t T hT := by
    rw [h.mem_routers]
    rw [h.transports] at hT
    exact hI.transportRouter t T hT
  creatingOn r t b hop := by
    rw [h.mem_routers]
    exact hI.creatingOn r t b ((h.mem_operations rfl).mp hop)

/-- A router being created is assigned, and not registered yet. -/
theorem SetupWF.of_createRouter (hI : SetupWF w) {i : Nat} {r : RouterId}
    (hop : w.operations[i]? = some (.createRouter r)) :
    r ∈ w.assignedRouters.keys ∧ r ∉ w.routers.keys ∧
      (w.withoutOperation i).operations.countP
        (Operation.createsRouter r) = 0 := by
  have h := hI.routerOnce r
  rw [← (perm_cons_eraseIdx hop).countP_eq, List.countP_cons_of_pos
    (by simp [Operation.createsRouter])] at h
  have ha : r ∈ w.assignedRouters.keys := by
    by_contra hn
    rw [if_neg hn] at h
    omega
  rw [if_pos ha] at h
  refine ⟨ha, fun hr => ?_, ?_⟩
  · rw [if_pos hr] at h
    omega
  · show List.countP _ (w.operations.eraseIdx i) = 0
    omega

/-- A transport being created is assigned, and not registered yet. -/
theorem SetupWF.of_createTransport (hI : SetupWF w) {i : Nat}
    {r : RouterId} {t : TransportId} {isProducer : Bool}
    (hop : w.operations[i]?
      = some (.createWebRtcTransport r t isProducer)) :
    t ∈ w.assignedTransports.keys ∧ t ∉ w.transports.keys ∧
      (w.withoutOperation i).operations.countP
        (Operation.createsTransport t) = 0 := by
  have h := hI.transportOnce t
  rw [← (perm_cons_eraseIdx hop).countP_eq, List.countP_cons_of_pos
    (by simp [Operation.createsTransport])] at h
  have ha : t ∈ w.assignedTransports.keys := by
    by_contra hn
    rw [if_neg hn] at h
    omega
  rw [if_pos ha] at h
  refine ⟨ha, fun hr => ?_, ?_⟩
  · rw [if_pos hr] at h
    omega
  · show List.countP _ (w.operations.eraseIdx i) = 0
    omega

/-- Dropping an operation or a continuation keeps setup well formed. -/
theorem SetupWF.of_sublist (hI : SetupWF w)
    {operations : List (Operation κ)} {tasks : List (Task κ)}
    {out : List (Out κ)} (hop : operations.Sublist w.operations) :
    SetupWF { w with operations, tasks, out } :=
  { hI with
    routerOnce := fun r => (Nat.add_le_add_right (hop.countP_le) _).trans
      (hI.routerOnce r)
    transportOnce := fun t => (Nat.add_le_add_right (hop.countP_le) _).trans
      (hI.transportOnce t)
    creatingOn := fun r t b h => hI.creatingOn r t b (hop.subset h) }

/-- A router is asked for, under a new id. -/
theorem SetupWF.createRouter (hI : SetupWF w) {id : RouterId}
    (hn : id ∉ w.assignedRouters.keys) :
    SetupWF ({ w with
      assignedRouters := JsSet.add w.assignedRouters id }.start
        (.createRouter id)) where
  routerOnce r := by
    have h := hI.routerOnce r
    show List.countP _ (w.operations ++ [_]) + (if r ∈ w.routers.keys then 1
      else 0) ≤ if r ∈ (JsSet.add w.assignedRouters id).keys then 1 else 0
    rw [List.countP_append, List.countP_singleton]
    simp only [Operation.createsRouter, JsSet.mem_keys_add, beq_iff_eq]
    by_cases heq : r = id
    · subst heq
      rw [if_neg hn] at h
      simp
      omega
    · rw [if_neg (Ne.symm heq)]
      simpa [heq] using h
  transportOnce t := by
    have h := hI.transportOnce t
    show List.countP _ (w.operations ++ [_]) + _ ≤ _
    rw [List.countP_append]
    exact h
  transportId := hI.transportId
  transportRouter := hI.transportRouter
  creatingOn r t b hop := by
    refine hI.creatingOn r t b ?_
    rcases List.mem_append.mp hop with h | h
    · exact h
    · cases List.mem_singleton.mp h

/-- A transport is asked for, under a new id, on a router that is there. -/
theorem SetupWF.createTransport (hI : SetupWF w) {r : RouterId}
    {id : TransportId} {isProducer : Bool} (hr : r ∈ w.routers.keys)
    (hn : id ∉ w.assignedTransports.keys) :
    SetupWF ({ w with
      assignedTransports := JsSet.add w.assignedTransports id }.start
        (.createWebRtcTransport r id isProducer)) where
  routerOnce r' := by
    have h := hI.routerOnce r'
    show List.countP _ (w.operations ++ [_]) + _ ≤ _
    rw [List.countP_append]
    exact h
  transportOnce t := by
    have h := hI.transportOnce t
    show List.countP _ (w.operations ++ [_]) + (if t ∈ w.transports.keys
      then 1 else 0) ≤ if t ∈ (JsSet.add w.assignedTransports id).keys then 1
        else 0
    rw [List.countP_append, List.countP_singleton]
    simp only [Operation.createsTransport, JsSet.mem_keys_add, beq_iff_eq]
    by_cases heq : t = id
    · subst heq
      rw [if_neg hn] at h
      simp
      omega
    · rw [if_neg (Ne.symm heq)]
      simpa [heq] using h
  transportId := hI.transportId
  transportRouter := hI.transportRouter
  creatingOn r' t b hop := by
    rcases List.mem_append.mp hop with h | h
    · exact hI.creatingOn r' t b h
    · cases List.mem_singleton.mp h
      exact hr

/-- The router is there; its continuation is ready. -/
theorem SetupWF.routerCreated (hI : SetupWF w) {i : Nat} {id : RouterId}
    (rtpCapabilities : Json)
    (hop : w.operations[i]? = some (.createRouter id)) :
    SetupWF ((w.withoutOperation i).onRouterCreated id rtpCapabilities) := by
  obtain ⟨ha, -, hcount⟩ := hI.of_createRouter hop
  have hsub : SetupWF (w.withoutOperation i) :=
    hI.of_sublist (List.eraseIdx_sublist w.operations i)
  have hkeys : ∀ r, r ∈ ((w.withoutOperation i).onRouterCreated id
      rtpCapabilities).routers.keys ↔ r = id ∨ r ∈ w.routers.keys :=
    fun r => JsMap.mem_keys_set
  constructor
  case routerOnce =>
    intro r
    simp only [hkeys]
    by_cases heq : r = id
    · subst heq
      show List.countP _ (w.operations.eraseIdx i) + _
        ≤ if r ∈ w.assignedRouters.keys then 1 else 0
      rw [if_pos (.inl rfl), if_pos ha]
      have hcount : List.countP (Operation.createsRouter r)
        (w.operations.eraseIdx i) = 0 := hcount
      omega
    · simp only [heq, false_or]
      exact hsub.routerOnce r
  case transportOnce => exact hsub.transportOnce
  case transportId => exact hI.transportId
  case transportRouter =>
    exact fun t T hT => (hkeys _).mpr (.inr (hI.transportRouter t T hT))
  case creatingOn =>
    exact fun r t b h => (hkeys _).mpr (.inr (hsub.creatingOn r t b h))

/-- The transport is there, and the coordinator is told. -/
theorem SetupWF.transportCreated (hI : SetupWF w) {i : Nat} {r : RouterId}
    {id : TransportId} {isProducer : Bool} (params : Json)
    (hop : w.operations[i]?
      = some (.createWebRtcTransport r id isProducer)) :
    SetupWF ((w.withoutOperation i).onTransportCreated r id isProducer
      params) := by
  obtain ⟨ha, -, hcount⟩ := hI.of_createTransport hop
  have hr := hI.creatingOn r id isProducer (List.mem_of_getElem? hop)
  have hsub : SetupWF (w.withoutOperation i) :=
    hI.of_sublist (List.eraseIdx_sublist w.operations i)
  have hkeys : ∀ r', r' ∈ ((w.withoutOperation i).onTransportCreated r id
      isProducer params).routers.keys ↔ r' ∈ w.routers.keys :=
    fun r' => JsMap.mem_keys_modify
  -- the one new transport is the one that was asked for
  have hget : ∀ t T, ((w.withoutOperation i).onTransportCreated r id
      isProducer params).transports.get? t = some T →
      t = id ∧ T = ⟨id, params, r⟩ ∨ w.transports.get? t = some T := by
    intro t T hT
    have hT : (w.transports.set id ⟨id, params, r⟩).get? t = some T := hT
    rw [JsMap.get?_set] at hT
    split at hT
    · rename_i heq
      exact .inl ⟨heq, (Option.some.inj hT).symm⟩
    · exact .inr hT
  constructor
  case routerOnce =>
    intro r'
    simp only [hkeys]
    exact hsub.routerOnce r'
  case transportOnce =>
    intro t
    have hmem : t ∈ ((w.withoutOperation i).onTransportCreated r id
        isProducer params).transports.keys ↔ t = id ∨ t ∈ w.transports.keys :=
      JsMap.mem_keys_set
    simp only [hmem]
    -- the operation that created it is gone, and there was one only
    by_cases heq : t = id
    · subst heq
      show List.countP _ (w.operations.eraseIdx i) + _
        ≤ if t ∈ w.assignedTransports.keys then 1 else 0
      rw [if_pos (.inl rfl), if_pos ha]
      have hcount : List.countP (Operation.createsTransport t)
        (w.operations.eraseIdx i) = 0 := hcount
      omega
    · simp only [heq, false_or]
      exact hsub.transportOnce t
  case transportId =>
    intro t T hT
    rcases hget t T hT with ⟨rfl, rfl⟩ | hT
    · rfl
    · exact hI.transportId t T hT
  -- its router is there, as its request was accepted for it
  case transportRouter =>
    intro t T hT
    rw [hkeys]
    rcases hget t T hT with ⟨rfl, rfl⟩ | hT
    · exact hr
    · exact hI.transportRouter t T hT
  case creatingOn =>
    exact fun r' t b h => (hkeys _).mpr (hsub.creatingOn r' t b h)

/-- **Setup stays well formed.** -/
theorem SetupWF.step [Callback κ] {a : Action κ} (h : Stretch w a w')
    (hI : SetupWF w) : SetupWF w' := by
  cases h with
  | skip => exact hI
  | update _ hT =>
      exact (onTransportUpdate_setupFrame hT _ _).wf { hI with }
  | settled hop hs h => exact (settled_setupFrame hop hs h).wf hI
  | attempted ht => exact (attempted_setupFrame ht).wf hI
  | createRouter _ hn => exact hI.createRouter hn
  | createTransport _ hr hn => exact hI.createTransport hr hn
  | routerCreated hop => exact hI.routerCreated _ hop
  | transportCreated hop => exact hI.transportCreated _ hop
  | routerFailed | transportFailed =>
      exact hI.of_sublist (List.eraseIdx_sublist _ _)
  | routerAcked => exact hI.of_sublist (List.Sublist.refl _)

/-- A new worker has set nothing up. -/
theorem setupWF_initial (workerId : WorkerId) :
    SetupWF (SfuWorker.initial workerId : SfuWorker κ) where
  routerOnce _ := by simp [SfuWorker.initial]
  transportOnce _ := by simp [SfuWorker.initial]
  transportId _ _ h := by cases h
  transportRouter _ _ h := by cases h
  creatingOn _ _ _ h := by cases h

end WF

end Twolk.Worker
