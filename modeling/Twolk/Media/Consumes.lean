/-
  Twolk.Media.Consumes
  ────────────────────
  **ADMITTED CONSUMES AND THE WORKER'S STRUCTURAL CHECKS.**

  The dispatcher admits a consume when both members are present and the
  consumer transport is allocated; the worker also wants the producing
  transport, on the same router.  Neither follows: another member's producer
  may still be unallocated, and a space can get two routers.

  `consumesHosted` states the missing check at the step that publishes.  In
  every run that meets it, the worker serves or buffers each consume
  (`consumes_served`).
-/
import Twolk.Coordinator.Handshakes
import Twolk.Media.Agreement

namespace Twolk

open Twolk.Lib

namespace Worker

variable {κ : Type}

/-! ## §1. Structural rejections of one worker. -/

/-- The request is rejected for what it names. -/
def UpdateError.structural : UpdateError → Bool
  | .producingTransportNotFound | .differentRouters => true
  | .producerDisappeared | .consumerNotFound | .thrown _ => false

/-- A nack for such an error. -/
def Out.structural : Out κ → Bool
  | .nack _ error => error.structural
  | _ => false

/-- From `w` to `w'` nothing is rejected structurally. -/
def Unrejected (w w' : SfuWorker κ) : Prop :=
  ∃ l, w'.out = w.out ++ l ∧ ∀ o ∈ l, o.structural = false

theorem Unrejected.of_out {w w' : SfuWorker κ} (h : w'.out = w.out) :
    Unrejected w w' := ⟨[], by simp [h], by simp⟩

/-- Steps without a structural nack add up. -/
theorem Unrejected.trans {w w' w'' : SfuWorker κ} (h : Unrejected w w')
    (h' : Unrejected w' w'') : Unrejected w w'' := by
  obtain ⟨l, hl, hs⟩ := h
  obtain ⟨l', hl', hs'⟩ := h'
  refine ⟨l ++ l', by rw [hl', hl, List.append_assoc], fun o ho => ?_⟩
  exact (List.mem_append.mp ho).elim (hs o) (hs' o)

/-- What is emitted is no such nack, unless it says so. -/
theorem emit_unrejected (w : SfuWorker κ) {o : Out κ}
    (ho : o.structural = false) : Unrejected w (w.emit o) :=
  ⟨[o], rfl, by simp [ho]⟩

section Answers

variable [Callback κ] (w : SfuWorker κ) (caller : Caller κ)

theorem nackSync_unrejected {error : UpdateError}
    (he : error.structural = false) :
    Unrejected w (w.nackSync caller error) := by
  unfold SfuWorker.nackSync
  have h := emit_unrejected w (o := .nack caller error) he
  split
  · exact h
  · exact h.trans (emit_unrejected _ rfl)

theorem nackCatch_unrejected {error : UpdateError}
    (he : error.structural = false) :
    Unrejected w (w.nackCatch caller error) := by
  unfold SfuWorker.nackCatch
  have h := emit_unrejected w (o := .nack caller error) he
  split
  · exact h
  · exact h.trans (emit_unrejected _ rfl)

theorem nackThen_unrejected {error : UpdateError}
    (he : error.structural = false) :
    Unrejected w (w.nackThen caller error) := by
  unfold SfuWorker.nackThen
  have h := emit_unrejected w (o := .nack caller error) he
  split
  · exact h
  · exact h.trans (nackCatch_unrejected _ caller rfl)

/-- An ack is none, if what follows it is not. -/
theorem ackThen_unrejected (resp : Option TransportUpdateAck)
    {k : SfuWorker κ → SfuWorker κ} (hk : ∀ w, Unrejected w (k w)) :
    Unrejected w (w.ackThen caller resp k) := by
  unfold SfuWorker.ackThen
  have h := emit_unrejected w (o := .ack caller resp) rfl
  split
  · exact h.trans (hk _)
  · exact h.trans (nackCatch_unrejected _ caller rfl)

end Answers

theorem consumeAndAck_unrejected (w : SfuWorker κ) (p : PendingConsume κ) :
    Unrejected w (w.consumeAndAck p) := by
  unfold SfuWorker.consumeAndAck
  split
  · exact .of_out rfl
  · exact emit_unrejected w (o := .mediaConsume _ _) rfl

/-- What waited for a producer is not rejected structurally. -/
theorem flush_unrejected (w : SfuWorker κ) (transport : TransportId) :
    Unrejected w (w.flush transport) := by
  have hfold : ∀ (l : List (PendingConsume κ)) (w : SfuWorker κ),
      Unrejected w (l.foldl SfuWorker.consumeAndAck w) := by
    intro l
    induction l with
    | nil => exact fun w => .of_out rfl
    | cons p l ih => exact fun w => (consumeAndAck_unrejected w p).trans (ih _)
  unfold SfuWorker.flush
  split
  · exact .of_out rfl
  · exact hfold _ { w with
      pendingConsumes := w.pendingConsumes.delete transport }

variable [Callback κ]

/-- Nor is anything when a media operation ends well. -/
theorem onFulfilled_unrejected {w w' : SfuWorker κ} {op : Operation κ}
    {value : MediaValue} (h : w.onFulfilled op value = some w') :
    Unrejected w w' := by
  unfold SfuWorker.onFulfilled at h
  split at h
  · cases h
    exact .of_out rfl
  · cases h
    exact emit_unrejected w (o := .transportAck _ _) rfl
  · cases h
    exact ackThen_unrejected w _ none fun _ => .of_out rfl
  · rename_i transport _ _ caller producer
    cases h
    have hemit := emit_unrejected w
      (o := .produced transport.id producer.id) rfl
    exact hemit.trans (ackThen_unrejected _ caller _ fun w =>
      flush_unrejected w transport.id)
  · cases h
    exact .of_out rfl
  · cases h
    exact ackThen_unrejected w _ none fun _ => .of_out rfl
  · cases h

/-- Nor is it when a media operation fails. -/
theorem onRejected_unrejected (w : SfuWorker κ) (message : String)
    (op : Operation κ) : Unrejected w (w.onRejected message op) := by
  cases op with
  | createRouter | createWebRtcTransport => exact emit_unrejected w rfl
  | connect | produce | consume | resume =>
      exact nackCatch_unrejected w _ rfl

/-- Nor is anything in a continuation. -/
theorem resumeTask_unrejected (w : SfuWorker κ) (t : Task κ) :
    Unrejected w (w.resumeTask t) := by
  cases t with
  | routerCreated => exact emit_unrejected w rfl
  | attempted caller consumer =>
      cases consumer with
      | none => exact nackThen_unrejected w caller rfl
      | some c => exact ackThen_unrejected w caller _ fun _ => .of_out rfl

/-- **Only a message is rejected structurally.** -/
theorem act_unrejected {w w' : SfuWorker κ} {a : Action κ}
    (ha : (∃ i value, a = .fulfilled i value) ∨
      (∃ i message, a = .rejected i message) ∨ ∃ i, a = .resume i)
    (h : w.act a = some w') : Unrejected w w' := by
  rcases ha with ⟨i, value, rfl⟩ | ⟨i, message, rfl⟩ | ⟨i, rfl⟩
  · obtain ⟨op, -, h⟩ := Option.bind_eq_some_iff.mp h
    have hsame : Unrejected w
        { w with operations := w.operations.eraseIdx i } := .of_out rfl
    exact hsame.trans (onFulfilled_unrejected h)
  · obtain ⟨op, -, rfl⟩ := Option.map_eq_some_iff.mp h
    have hsame : Unrejected w
        { w with operations := w.operations.eraseIdx i } := .of_out rfl
    exact hsame.trans (onRejected_unrejected _ message op)
  · obtain ⟨t, -, rfl⟩ := Option.map_eq_some_iff.mp h
    have hsame : Unrejected w { w with tasks := w.tasks.eraseIdx i } :=
      .of_out rfl
    exact hsame.trans (resumeTask_unrejected _ t)

/-! ## §2. Messages. -/

/-- An update that is no consume is not rejected structurally. -/
theorem onTransportUpdate_unrejected (w : SfuWorker κ) (id : TransportId)
    (update : TransportUpdateC) (cb : κ)
    (hu : ∀ rtpCapabilities producer,
      update ≠ .transportConsumerConsumeEvent rtpCapabilities producer) :
    Unrejected w (w.onTransportUpdate id update cb) := by
  unfold SfuWorker.onTransportUpdate
  split
  · exact .of_out rfl
  · have hemit : Unrejected w ({ w with
        requestIdGen := w.requestIdGen + 1 }.emit
          (.handled ⟨w.requestIdGen, cb⟩)) :=
      ⟨[.handled ⟨w.requestIdGen, cb⟩], rfl, by simp [Out.structural]⟩
    refine hemit.trans ?_
    dsimp only
    split
    · exact .of_out rfl
    · exact .of_out rfl
    · exact absurd rfl (hu _ _)
    · split
      · exact nackSync_unrejected _ _ rfl
      · exact .of_out rfl

/-- **A consume that names a registered producing transport on the router
of its target is served or buffered.** -/
theorem onTransportUpdate_consume {w : SfuWorker κ} {id p : TransportId}
    {X P : WebRtcTransport} (rtpCapabilities : Json) (cb : κ)
    (hX : w.transports.get? id = some X)
    (hP : w.transports.get? p = some P) (hr : P.router = X.router) :
    Unrejected w (w.onTransportUpdate id
        (.transportConsumerConsumeEvent rtpCapabilities p) cb) ∧
      .handled ⟨w.requestIdGen, cb⟩ ∈ (w.onTransportUpdate id
        (.transportConsumerConsumeEvent rtpCapabilities p) cb).out ∧
      .accepted w.requestIdGen p ∈ (w.onTransportUpdate id
        (.transportConsumerConsumeEvent rtpCapabilities p) cb).out := by
  have hmain : ∃ l, (w.onTransportUpdate id
        (.transportConsumerConsumeEvent rtpCapabilities p) cb).out
      = w.out ++ (.handled ⟨w.requestIdGen, cb⟩ ::
          .accepted w.requestIdGen p :: l) ∧
      ∀ o ∈ l, o.structural = false := by
    unfold SfuWorker.onTransportUpdate
    rw [hX]
    dsimp only
    unfold SfuWorker.onConsume
    simp only [SfuWorker.emit, hP, hr, ne_eq, not_true_eq_false, if_false]
    split
    · exact ⟨[], by simp, by simp⟩
    · rename_i producer _
      obtain ⟨l, hl, hs⟩ := consumeAndAck_unrejected _ _
      exact ⟨l, by rw [hl]; simp, hs⟩
  obtain ⟨l, hl, hs⟩ := hmain
  rw [hl]
  refine ⟨⟨_, hl, fun o ho => ?_⟩, by simp, by simp⟩
  rcases List.mem_cons.mp ho with rfl | ho
  · rfl
  · rcases List.mem_cons.mp ho with rfl | ho
    · rfl
    · exact hs o ho

end Worker

namespace Media

variable {κ : Type}

/-! ## §3. The statement. -/

/-- A worker rejects an admitted consume. -/
def Out.structural : Out κ → Bool
  | .worker _ o => o.structural
  | .coordinator _ => false

/-- The router a transport was requested on. -/
def routerOf (c : Coordinator.Coord κ) (t : TransportId) : Option RouterId :=
  (c.transportHeap.get? t).map Coordinator.Transport.owningRouter

/-- When a consume is admitted, the producing transport it names exists at
a worker, and was requested on the router of the target. -/
def consumesHosted : Guard (Cluster κ) (Action κ) (Out κ)
  | _, s, .coordinator (.spaceUpdateStream uuid update _) =>
      ∀ t ∈ s.coordinator.targetOf uuid update,
        ∀ p ∈ (s.coordinator.namedSource uuid update).join,
          s.coordinator.transportStatus t ≠ some .unallocated →
            routerOf s.coordinator p = routerOf s.coordinator t ∧
              ∃ w ∈ s.workers, w.transports.has p = true
  | _, _, _ => True

instance (tr : List (Out κ)) (s : Cluster κ) (a : Action κ) :
    Decidable (consumesHosted tr s a) := by
  unfold consumesHosted
  split <;> infer_instance

/-- No consume is rejected structurally, and each is taken by a worker that
accepts it. -/
structure Served (tr : List (Out κ)) : Prop where
  unrejected : ∀ o ∈ tr, o.structural = false
  accepted : ∀ n t rtpCapabilities p cb,
    .coordinator (.transportUpdate n t
      (.transportConsumerConsumeEvent rtpCapabilities p) cb) ∈ tr →
    ∃ i caller, .worker i (.handled caller) ∈ tr ∧
      caller.cb.request = n ∧ .worker i (.accepted caller.request p) ∈ tr

/-- The message is a consume. -/
def isConsume : Coordinator.Out κ → Bool
  | .transportUpdate _ _ (.transportConsumerConsumeEvent ..) _ => true
  | _ => false

section Step

variable [Callback κ] {tr : List (Out κ)} {s : Cluster κ}
  {a : Coordinator.Action κ} {c : Coordinator.Coord κ}

/-! ## §4. One stretch of the coordinator. -/

/-- A message other than a consume request is never rejected so. -/
theorem receive_unrejected (w : SfuWorker κ) {o : Coordinator.Out κ}
    (ho : isConsume o = false) :
    Worker.Unrejected w (Cluster.receive w o) := by
  cases o with
  | newRouterRequest r workerId =>
      show Worker.Unrejected w (w.onNewRouterRequest r workerId)
      unfold Worker.SfuWorker.onNewRouterRequest
      split <;> exact .of_out rfl
  | newWebRtcTransportRequest r t isProducer =>
      show Worker.Unrejected w (w.onNewWebRtcTransportRequest r t isProducer)
      unfold Worker.SfuWorker.onNewWebRtcTransportRequest
      split <;> exact .of_out rfl
  | transportUpdate n id update cb =>
      refine Worker.onTransportUpdate_unrejected w id update _ ?_
      rintro rtpCapabilities producer rfl
      cases ho
  | _ => exact .of_out rfl

/-- A list of messages without a consume request is never rejected so. By
induction on the messages. -/
theorem receiveAll_unrejected {l : List (Coordinator.Out κ)}
    (hl : ∀ o ∈ l, isConsume o = false) :
    ∀ w : SfuWorker κ, Worker.Unrejected w (l.foldl Cluster.receive w) := by
  induction l with
  | nil => exact fun w => .of_out rfl
  | cons o l ih =>
      intro w
      have hone := receive_unrejected w (hl o List.mem_cons_self)
      exact hone.trans (ih (fun o ho => hl o (List.mem_cons_of_mem _ ho)) _)

omit [Callback κ] in
/-- What a step adds to a trace without a new consume. -/
theorem Served.append (h : Served tr) {obs : List (Out κ)}
    (hs : ∀ o ∈ obs, o.structural = false)
    (hn : ∀ o, .coordinator o ∈ obs → isConsume o = false) :
    Served (tr ++ obs) where
  unrejected o ho := (List.mem_append.mp ho).elim (h.unrejected o) (hs o)
  accepted n t rtpCapabilities p cb hm := by
    rcases List.mem_append.mp hm with hm | hm
    · obtain ⟨i, caller, hh, hr, ha⟩ := h.accepted n t _ p cb hm
      exact ⟨i, caller, List.mem_append_left _ hh, hr,
        List.mem_append_left _ ha⟩
    · have hcon := hn _ hm
      cases hcon

/-- What is observed of a stretch was said by the coordinator, or by a worker.
-/
theorem mem_publish {o : Out κ} (h : o ∈ (s.publish c).2) :
    (∃ o' ∈ c.out, o = .coordinator o') ∨
      ∃ w ∈ s.workers, ∃ o' ∈ (Cluster.receiveAll c.out w).out,
        o = .worker (Cluster.receiveAll c.out w).workerId o' := by
  have h : o ∈ c.out.map Out.coordinator ++ (s.workers.map
    (Cluster.receiveAll c.out)).flatMap Cluster.observed := h
  rcases List.mem_append.mp h with h | h
  · obtain ⟨o', ho', rfl⟩ := List.mem_map.mp h
    exact .inl ⟨o', ho', rfl⟩
  · obtain ⟨w', hw', h⟩ := List.mem_flatMap.mp h
    obtain ⟨w, hw, rfl⟩ := List.mem_map.mp hw'
    obtain ⟨o', ho', rfl⟩ := List.mem_map.mp h
    exact .inr ⟨w, hw, o', ho', rfl⟩

/-- What a worker says on a message is in the trace. -/
theorem worker_mem_publish {w : SfuWorker κ} (hw : w ∈ s.workers)
    {o : Worker.Out (UpdateCallback κ)}
    (ho : o ∈ (Cluster.receiveAll c.out w).out) :
    .worker (Cluster.receiveAll c.out w).workerId o ∈ (s.publish c).2 := by
  refine List.mem_append_right _ (List.mem_flatMap.mpr ⟨_,
    List.mem_map_of_mem hw, ?_⟩)
  exact List.mem_map_of_mem ho

/-- The worker that hosts the target hosts the producing transport, on the
same router. -/
theorem Inv.hosts_source (hI : Inv tr s) {t p : TransportId}
    {w w₀ : SfuWorker κ} {X : Worker.WebRtcTransport}
    (hw : w ∈ s.workers) (hX : w.transports.get? t = some X)
    (hw₀ : w₀ ∈ s.workers) (hp : w₀.transports.has p = true)
    (hr : routerOf s.coordinator p = routerOf s.coordinator t) :
    ∃ P, w.transports.get? p = some P ∧ P.router = X.router := by
  obtain ⟨P, hP⟩ := JsMap.has_iff.mp hp
  obtain ⟨T, hT, hTr⟩ := (hI.agrees w hw).registered t X hX
  obtain ⟨S, hS, hSr⟩ := (hI.agrees w₀ hw₀).registered p P hP
  have hPX : P.router = X.router := by
    simp only [routerOf, hT, hS, Option.map_some, Option.some.injEq] at hr
    rw [← hSr, hr, hTr]
  -- a router is at one worker
  have hid : w₀.workerId = w.workerId := by
    refine hI.oneRouter w₀ hw₀ w hw P.router ?_ ?_
    · exact assigned_of_router (hI.agrees w₀ hw₀).setup
        ((hI.agrees w₀ hw₀).setup.transportRouter p P hP)
    · rw [hPX]
      exact assigned_of_router (hI.agrees w hw).setup
        ((hI.agrees w hw).setup.transportRouter t X hX)
  obtain rfl : w₀ = w :=
    List.inj_on_of_nodup_map hI.ids hw₀ hw hid
  exact ⟨P, hP, hPX⟩

/-- **A stretch that publishes a consume** finds its producer transport
registered. -/
theorem served_consume (hI : Inv tr s) (h : Served tr) {n : Nat}
    {t p : TransportId} {rtpCapabilities : Json} {cb : κ}
    {T : Coordinator.Transport}
    (hout : c.out = [.transportUpdate n t
      (.transportConsumerConsumeEvent rtpCapabilities p) cb])
    (hT : s.coordinator.transportHeap.get? t = some T)
    (hst : T.status ≠ .unallocated)
    (hr : routerOf s.coordinator p = routerOf s.coordinator t)
    {w₀ : SfuWorker κ} (hw₀ : w₀ ∈ s.workers)
    (hp : w₀.transports.has p = true) :
    Served (tr ++ (s.publish c).2) := by
  -- the consume is the only message of the stretch
  have hrec : ∀ w : SfuWorker κ, Cluster.receiveAll c.out w
      = Worker.SfuWorker.onTransportUpdate { w with out := [] } t
        (.transportConsumerConsumeEvent rtpCapabilities p)
        ⟨n, .transportConsumerConsumeEvent rtpCapabilities p, cb⟩ := by
    intro w
    rw [hout]
    rfl
  -- a worker that holds the transport holds the producer's, too
  have hserve := fun (w : SfuWorker κ) (hw : w ∈ s.workers)
      (X : Worker.WebRtcTransport) (hX : w.transports.get? t = some X) =>
    have ⟨_, hP, hPX⟩ := hI.hosts_source hw hX hw₀ hp hr
    Worker.onTransportUpdate_consume (w := { w with out := [] })
      rtpCapabilities (⟨n, .transportConsumerConsumeEvent rtpCapabilities p,
        cb⟩ : UpdateCallback κ) hX hP hPX
  constructor
  -- nothing that a worker refuses this way is in the trace
  · intro o ho
    rcases List.mem_append.mp ho with ho | ho
    · exact h.unrejected o ho
    · rcases mem_publish ho with ⟨o', -, rfl⟩ | ⟨w, hw, o', ho', rfl⟩
      · rfl
      · rw [hrec] at ho'
        show o'.structural = false
        -- a worker without the transport skips the update silently
        cases hX : w.transports.get? t with
        | none =>
            unfold Worker.SfuWorker.onTransportUpdate at ho'
            rw [hX] at ho'
            cases ho'
        | some X =>
            obtain ⟨⟨l, hl, hs⟩, -⟩ := hserve w hw X hX
            rw [hl] at ho'
            exact hs o' ho'
  · intro n' t' caps' p' cb' hm
    rcases List.mem_append.mp hm with hm | hm
    · obtain ⟨i, caller, hh, hr, ha⟩ := h.accepted n' t' _ p' cb' hm
      exact ⟨i, caller, List.mem_append_left _ hh, hr,
        List.mem_append_left _ ha⟩
    -- the new update is accepted by the worker that holds its transport
    · rcases mem_publish hm with ⟨o', ho', heq⟩ | ⟨_, _, _, _, heq⟩
      · cases heq
        rw [hout] at ho'
        cases List.mem_singleton.mp ho'
        obtain ⟨w, hw, ht⟩ := hI.allocated t T hT hst
        obtain ⟨X, hX⟩ := Option.isSome_iff_exists.mp (JsMap.mem_keys.mp ht)
        obtain ⟨-, hh, ha⟩ := hserve w hw X hX
        rw [← hrec] at hh ha
        exact ⟨_, _, List.mem_append_right _ (worker_mem_publish hw hh), rfl,
          List.mem_append_right _ (worker_mem_publish hw ha)⟩
      · cases heq

/-- **A stretch of the coordinator** keeps every consume served. -/
theorem served_publish (hI : Inv tr s) (h : Served tr)
    (hc : Coordinator.Coord.act { s.coordinator with out := [] } a = some c)
    (hg : ∀ uuid update cb, a = .spaceUpdateStream uuid update cb →
      consumesHosted tr s (.coordinator a)) :
    Served (tr ++ (s.publish c).2) := by
  have hstep : (Coordinator.machine κ).step s.coordinator a
      = some (c, c.out) := by
    simp [Coordinator.machine, hc]
  by_cases hcons : ∃ o ∈ c.out, isConsume o = true
  · obtain ⟨o, ho, hoc⟩ := hcons
    unfold isConsume at hoc
    split at hoc
    · rename_i n t rtpCapabilities p cb
      obtain ⟨hout, uuid, update, T, rfl, htarget, hT, hst, hu⟩ :=
        Coordinator.transportUpdate_step hI.reachable hstep ho
      have hnamed : s.coordinator.namedSource uuid update
          = some (some p) := by
        cases hu with
        | consume hp => exact hp
      have hstatus : s.coordinator.transportStatus t
          ≠ some .unallocated := by
        rw [Coordinator.Coord.transportStatus, hT, Option.map_some]
        exact fun heq => hst (Option.some.inj heq)
      have hhost := hg uuid update cb rfl
      obtain ⟨hr, w₀, hw₀, hp⟩ := hhost t (by rw [htarget]; rfl) p
        (by rw [hnamed]; rfl) hstatus
      exact served_consume hI h hout hT hst hr hw₀ hp
    · cases hoc
  · have hnone : ∀ o ∈ c.out, isConsume o = false := fun o ho =>
      Bool.eq_false_of_not_eq_true fun hoc => hcons ⟨o, ho, hoc⟩
    refine h.append (fun o ho => ?_) fun o ho => ?_
    · rcases mem_publish ho with ⟨o', -, rfl⟩ | ⟨w, hw, o', ho', rfl⟩
      · rfl
      · obtain ⟨l, hl, hs⟩ := receiveAll_unrejected hnone { w with out := [] }
        have ho' : o' ∈ (c.out.foldl Cluster.receive
          { w with out := [] }).out := ho'
        rw [hl] at ho'
        exact hs o' ho'
    · rcases mem_publish ho with ⟨o', ho', heq⟩ | ⟨_, _, _, _, heq⟩
      · cases heq
        exact hnone o ho'
      · cases heq

end Step

/-! ## §5. Every run. -/

section Runs

variable [Callback κ]

omit [Callback κ] in
theorem isAnswer_of_answer {o : Worker.Out (UpdateCallback κ)}
    {a : Coordinator.Action κ} (h : answer o = some a) :
    isAnswer a = true := by
  cases o <;> cases h <;> rfl

omit [Callback κ] in
/-- What a worker sends back are answers. -/
theorem isAnswer_of_answered {w : SfuWorker κ} {a : Coordinator.Action κ}
    (h : a ∈ Cluster.answered w) : isAnswer a = true := by
  obtain ⟨o, -, ho⟩ := List.mem_filterMap.mp h
  exact isAnswer_of_answer ho

/-- What is on its way stays a worker's answer. -/
theorem isAnswer_step {s s' : Cluster κ} {a : Action κ}
    {obs : List (Out κ)} (h : s.act a = some (s', obs))
    (hI : ∀ a ∈ s.answers, isAnswer a = true) :
    ∀ a ∈ s'.answers, isAnswer a = true := by
  -- what a publication adds to the queue are answers of workers
  have hpublish : ∀ (s : Cluster κ) (c : Coordinator.Coord κ),
      (∀ a ∈ s.answers, isAnswer a = true) →
      ∀ a ∈ (s.publish c).1.answers, isAnswer a = true := by
    intro s c hs a ha
    rcases List.mem_append.mp ha with ha | ha
    · exact hs a ha
    · obtain ⟨w, -, ha⟩ := List.mem_flatMap.mp ha
      exact isAnswer_of_answered ha
  -- the answers that wait are those from before, and new ones
  cases a with
  | startWorker workerId =>
      simp only [Cluster.act] at h
      split at h
      · cases h
      · cases h
        exact hI
  | coordinator a =>
      simp only [Cluster.act] at h
      split at h
      · cases h
      · obtain ⟨c, -, hp⟩ := Option.map_eq_some_iff.mp h
        cases hp
        exact hpublish s c hI
  | worker i a =>
      simp only [Cluster.act] at h
      split at h
      · cases h
      · obtain ⟨w, -, h⟩ := Option.bind_eq_some_iff.mp h
        obtain ⟨w', -, hp⟩ := Option.map_eq_some_iff.mp h
        cases hp
        intro a ha
        exact (List.mem_append.mp ha).elim (hI a) isAnswer_of_answered
  | deliver i =>
      obtain ⟨a, -, h⟩ := Option.map_eq_some_iff.mp h
      have herase : ∀ a ∈ s.answers.eraseIdx i, isAnswer a = true :=
        fun a ha => hI a (List.mem_of_mem_eraseIdx ha)
      dsimp only at h
      split at h
      · cases h
        exact herase
      · rename_i c _
        cases h
        exact hpublish { s with answers := s.answers.eraseIdx i } c herase

/-- One step of a run that meets the condition keeps every consume served. -/
theorem served_step {tr : List (Out κ)} {s s' : Cluster κ} {a : Action κ}
    {obs : List (Out κ)} (hI : Inv tr s)
    (hans : ∀ a ∈ s.answers, isAnswer a = true) (hs : Served tr)
    (hg : consumesHosted tr s a) (h : s.act a = some (s', obs)) :
    Served (tr ++ obs) := by
  cases a with
  | startWorker workerId =>
      simp only [Cluster.act] at h
      split at h
      · cases h
      · cases h
        rw [List.append_nil]
        exact hs
  | coordinator a =>
      simp only [Cluster.act] at h
      split at h
      · cases h
      · obtain ⟨c, hc, hp⟩ := Option.map_eq_some_iff.mp h
        cases hp
        exact served_publish hI hs hc fun _ _ _ _ => hg
  | worker i a =>
      simp only [Cluster.act] at h
      split at h
      · cases h
      · rename_i hmsg
        obtain ⟨w, -, h⟩ := Option.bind_eq_some_iff.mp h
        obtain ⟨w', hw', hp⟩ := Option.map_eq_some_iff.mp h
        cases hp
        have hkind : (∃ j value, a = .fulfilled j value) ∨
            (∃ j message, a = .rejected j message) ∨ ∃ j, a = .resume j := by
          cases a with
          | fulfilled j value => exact .inl ⟨j, value, rfl⟩
          | rejected j message => exact .inr (.inl ⟨j, message, rfl⟩)
          | resume j => exact .inr (.inr ⟨j, rfl⟩)
          | newRouterRequest | newWebRtcTransportRequest
            | transportUpdate => exact absurd rfl hmsg
        obtain ⟨l, hl, hq⟩ := Worker.act_unrejected hkind hw'
        refine hs.append (fun o ho => ?_) fun o ho => ?_
        · obtain ⟨o', ho', rfl⟩ := List.mem_map.mp ho
          rw [hl] at ho'
          exact hq o' ho'
        · obtain ⟨_, _, heq⟩ := List.mem_map.mp ho
          cases heq
  | deliver i =>
      obtain ⟨a, ha, h⟩ := Option.map_eq_some_iff.mp h
      have hI' : Inv tr { s with answers := s.answers.eraseIdx i } :=
        { hI with
          acked := fun t options hm =>
            hI.acked t options (List.mem_of_mem_eraseIdx hm) }
      dsimp only at h
      split at h
      · cases h
        rw [List.append_nil]
        exact hs
      · rename_i c hc
        cases h
        -- a worker's answer is no forwarded message
        refine served_publish hI' hs hc fun uuid update cb heq => ?_
        have hans := hans a (List.mem_of_getElem? ha)
        rw [heq] at hans
        cases hans

/-- **Admitted consumes are served or buffered** in every run in which, when
a consume is admitted, its producing transport exists on the router of the
target. -/
theorem consumes_served {past : List (Cluster κ)} {s : Cluster κ}
    {tr : List (Out κ)} (h : (machine κ).Run consumesHosted past s tr) :
    Served tr := by
  refine (h.invariant (fun s tr => Inv tr s ∧
    (∀ a ∈ s.answers, isAnswer a = true) ∧ Served tr) (fun s hs => ?_)
    fun s tr a s' obs hI hg hs => ?_).2.2
  · obtain rfl : s = Cluster.initial := hs
    exact ⟨inv_initial, fun _ h => (by cases h), fun _ h => (by cases h),
      fun _ _ _ _ _ h => (by cases h)⟩
  · obtain ⟨hI, hans, hserved⟩ := hI
    exact ⟨inv_step hI hs, isAnswer_step hs hans,
      served_step hI hans hserved hg hs⟩

end Runs

/-! ## §6. Overlapping joins. -/

section Overlap

/-- Two members join; the producer of the second one and its consumer of the
first one are created while the producer of the first one is not. -/
def joinsOverlap : List (Action Unit) :=
  [.startWorker 1, .coordinator (.mediaWorkerConnected 1),
    .coordinator (.createSpaceRequest "room" ⟨"r", ""⟩
      "subscription-driven" ()),
    .coordinator (.subscribeToSpaceRequest 1 "room" ()),
    .worker 0 (.fulfilled 0 (.router "caps")), .worker 0 (.resume 0),
    .deliver 0, .coordinator (.resume 0), .coordinator (.resume 0),
    .coordinator (.addMemberRequest 1 "room" ⟨"a"⟩ ⟨false, false⟩ ()),
    .coordinator (.resume 0),
    .coordinator (.addMemberRequest 1 "room" ⟨"b"⟩ ⟨false, false⟩ ()),
    .coordinator (.resume 0),
    .worker 0 (.fulfilled 1 (.transport "1")), .deliver 0,
    .coordinator (.resume 0),
    .worker 0 (.fulfilled 2 (.transport "3")), .deliver 0]

/-- The second member consumes the first one. -/
def consumeFirst : Action Unit :=
  .coordinator (.spaceUpdateStream "room"
    (.memberConsumerConsumeEvent 1 "rtp" 0) ())

/-- The worker does not find the producing transport. -/
theorem consume_rejected : ∃ past s tr,
    (machine Unit).Run anyStep past s tr ∧
      .coordinator (.transportUpdate 0 3
        (.transportConsumerConsumeEvent "rtp" 0) ()) ∈ tr ∧
      (∃ caller, .worker 1 (.nack caller .producingTransportNotFound)
        ∈ tr) ∧ ¬ Served tr := by
  obtain ⟨past, s, tr, hr, hp⟩ := Machine.Run.exists_of_exec
    (M := machine Unit) (G := anyStep) (l := joinsOverlap ++ [consumeFirst])
    (p := fun r => decide (.coordinator (.transportUpdate 0 3
        (.transportConsumerConsumeEvent "rtp" 0) ()) ∈ r.2.2 ∧
      .worker 1 (.nack ⟨0, ⟨0, .transportConsumerConsumeEvent "rtp" 0, ()⟩⟩
        .producingTransportNotFound) ∈ r.2.2)) rfl (by decide)
  obtain ⟨hpub, hnack⟩ := of_decide_eq_true hp
  refine ⟨past, s, tr, hr, hpub, ⟨_, hnack⟩, fun h => ?_⟩
  have hs := h.unrejected _ hnack
  cases hs

/-- The first producer is created in time, and the consume is acked. -/
theorem consumes_served_created : ∃ past s tr,
    (machine Unit).Run consumesHosted past s tr ∧
      .coordinator (.transportUpdate 0 3
        (.transportConsumerConsumeEvent "rtp" 0) ()) ∈ tr ∧ Served tr := by
  obtain ⟨past, s, tr, hr, hp⟩ := Machine.Run.exists_of_exec
    (M := machine Unit) (G := consumesHosted)
    (l := joinsOverlap ++ [.worker 0 (.fulfilled 0 (.transport "0")),
      consumeFirst])
    (p := fun r => decide (.coordinator (.transportUpdate 0 3
      (.transportConsumerConsumeEvent "rtp" 0) ()) ∈ r.2.2)) rfl (by decide)
  exact ⟨past, s, tr, hr, of_decide_eq_true hp, consumes_served hr⟩

end Overlap

end Media

end Twolk
