/-
  Twolk.Worker.Provenance
  ───────────────────────
  **WHERE THE MEDIA IDS OF AN ANSWER COME FROM.**

  `P cb t u` says that the callbacks `cb` were published with update `u` for
  transport `t`; `F x c` says that the media library may fulfil a consume of
  producer `x` with consumer `c`.  Under both, whatever the order of the
  messages and of the media operations:

    * the ack of a produce carries the id of a producer created on the
      transport the produce was for,
    * the ack of a consume carries a consumer of a producer created on the
      transport the consume named, and that consumer is registered,
    * every producer created was acknowledged to whoever asked for it,
    * a resume is refused only while its transport has no consumer.

  `Adds` is what one stretch may add to the tables and the outbox; it
  composes (`Adds.trans`) and keeps the invariant (`Adds.traced`).
-/
import Twolk.Worker.Buffering

namespace Twolk.Worker

open Twolk.Lib

variable {κ : Type}

/-! ## §1. The statement. -/

/-- The consumer registered under transport `t`, on its router. -/
def SfuWorker.consumerOf (w : SfuWorker κ) (t : TransportId) :
    Option MediaConsumer :=
  (w.transports.get? t).bind fun T => (w.routers.get? T.router).bind
    fun r => r.webRtcConsumers.get? t

section Statement

variable (P : κ → TransportId → TransportUpdateC → Prop)
  (F : String → MediaConsumer → Prop) (seen : List (Out κ))

/-- Consumer `c` was created for the consume of `caller`, of a producer on
the transport it named. -/
def Consumed (w : SfuWorker κ) (caller : Caller κ) (c : MediaConsumer) :
    Prop :=
  ∃ t rtpCapabilities p x,
    P caller.cb t (.transportConsumerConsumeEvent rtpCapabilities p) ∧
      .produced p x ∈ seen ∧ F x c ∧ (w.consumerOf t).isSome = true

/-- What an ack says about the update it answers. -/
inductive Acked (w : SfuWorker κ) (caller : Caller κ) :
    Option TransportUpdateAck → Prop
  | connect {t : TransportId} {dtlsParameters : Json}
      (h : P caller.cb t (.transportConnectEvent dtlsParameters)) :
      Acked w caller none
  | produce {t : TransportId} {kind rtpParameters : Json} {x : String}
      (h : P caller.cb t (.transportProducerProduceEvent kind rtpParameters))
      (hx : .produced t x ∈ seen) :
      Acked w caller (some ⟨x, none, none, none⟩)
  | consume {c : MediaConsumer} (h : Consumed P F seen w caller c) :
      Acked w caller (some ⟨c.id, some c.producerId, some c.kind,
        some c.rtpParameters⟩)
  | resume {t : TransportId}
      (h : P caller.cb t .transportConsumerResumeEvent) :
      Acked w caller none

/-- What an observation rests on. -/
def Justified (w : SfuWorker κ) : Out κ → Prop
  | .produced p x => ∃ caller kind rtpParameters,
      P caller.cb p (.transportProducerProduceEvent kind rtpParameters) ∧
        .ack caller (some ⟨x, none, none, none⟩) ∈ seen
  | .ack caller resp => Acked P F seen w caller resp
  | _ => True

/-! ## §2. The invariant. -/

/-- What a media operation under way rests on. -/
inductive Backed (transports : JsMap TransportId WebRtcTransport) :
    Operation κ → Prop
  | createRouter {assignedId : RouterId} :
      Backed transports (.createRouter assignedId)
  | createWebRtcTransport {router : RouterId} {assignedId : TransportId}
      {isProducer : Bool} :
      Backed transports (.createWebRtcTransport router assignedId isProducer)
  | connect {T : WebRtcTransport} {dtlsParameters : Json}
      {caller : Caller κ}
      (h : P caller.cb T.id (.transportConnectEvent dtlsParameters)) :
      Backed transports (.connect T dtlsParameters caller)
  | produce {T : WebRtcTransport} {kind rtpParameters : Json}
      {caller : Caller κ}
      (h : P caller.cb T.id
        (.transportProducerProduceEvent kind rtpParameters)) :
      Backed transports (.produce T kind rtpParameters caller)
  | consume {T : WebRtcTransport} {p : TransportId} {x : String}
      {rtpCapabilities : Json} {paused : Bool} {caller : Caller κ}
      (h : P caller.cb T.id
        (.transportConsumerConsumeEvent rtpCapabilities p))
      (hx : .produced p x ∈ seen) (hT : transports.get? T.id = some T) :
      Backed transports (.consume T x rtpCapabilities paused caller)
  | resume {consumer : MediaConsumer} {caller : Caller κ} {t : TransportId}
      (h : P caller.cb t .transportConsumerResumeEvent) :
      Backed transports (.resume consumer caller)

/-- A buffered consume is the one that was published, for its producing
transport. -/
structure Waits (transports : JsMap TransportId WebRtcTransport)
    (p : TransportId) (e : PendingConsume κ) : Prop where
  published : P e.caller.cb e.consumerTransport.id
    (.transportConsumerConsumeEvent e.rtpCapabilities p)
  producing : e.producingTransport.id = p
  registered : transports.get? e.consumerTransport.id
    = some e.consumerTransport

end Statement

/-- The observation says something about media. -/
def Out.tells : Out κ → Bool
  | .produced .. | .ack .. | .nack _ .consumerNotFound => true
  | _ => false

section Invariant

variable (P : κ → TransportId → TransportUpdateC → Prop)
  (F : String → MediaConsumer → Prop) (old : List (Out κ))

/-- **The worker's tables and answers are traced** to what was published,
after the observations `old` of earlier stretches. -/
structure Traced (w : SfuWorker κ) : Prop where
  operations : ∀ op ∈ w.operations, Backed P (old ++ w.out) w.transports op
  waiting : ∀ p l e, w.pendingConsumes.get? p = some l → e ∈ l →
    Waits P w.transports p e
  attempted : ∀ caller c, .attempted caller (some c) ∈ w.tasks →
    Consumed P F (old ++ w.out) w caller c
  producers : ∀ r p x, w.producerOf r p = some x →
    .produced p x.id ∈ old ++ w.out
  justified : ∀ o ∈ old ++ w.out, Justified P F (old ++ w.out) w o

/-- A resume was refused: its transport had no consumer in `w`. -/
def Refused (w w' : SfuWorker κ) (caller : Caller κ) : Prop :=
  ∃ t, P caller.cb t .transportConsumerResumeEvent ∧
    t ∈ w'.transports.keys ∧ w.consumerOf t = none

/-- What is added from `w` to `w'` is traced. -/
structure Adds (w w' : SfuWorker κ) : Prop where
  transports : ∀ t T, w.transports.get? t = some T →
    w'.transports.get? t = some T
  consumers : ∀ t, (w.consumerOf t).isSome = true →
    (w'.consumerOf t).isSome = true
  operations : ∀ op ∈ w'.operations, op ∈ w.operations ∨
    Backed P (old ++ w'.out) w'.transports op
  waiting : ∀ p l' e, w'.pendingConsumes.get? p = some l' → e ∈ l' →
    (∃ l, w.pendingConsumes.get? p = some l ∧ e ∈ l) ∨
      Waits P w'.transports p e
  attempted : ∀ caller c, .attempted caller (some c) ∈ w'.tasks →
    .attempted caller (some c) ∈ w.tasks ∨
      Consumed P F (old ++ w'.out) w' caller c
  producers : ∀ r p x, w'.producerOf r p = some x →
    w.producerOf r p = some x ∨ .produced p x.id ∈ old ++ w'.out
  out : ∃ l, w'.out = w.out ++ l ∧
    (∀ o ∈ l, Justified P F (old ++ w'.out) w' o) ∧
    ∀ caller, .nack caller .consumerNotFound ∈ l → Refused P w w' caller

end Invariant

section Rules

variable {P : κ → TransportId → TransportUpdateC → Prop}
  {F : String → MediaConsumer → Prop} {old : List (Out κ)}
  {w w' w'' : SfuWorker κ}

theorem justified_of_not_tells {seen : List (Out κ)} {o : Out κ}
    (h : o.tells = false) : Justified P F seen w o := by
  cases o with
  | produced | ack => cases h
  | _ => trivial

/-- Observations that say nothing about media. -/
theorem quiet_out {l : List (Out κ)} (hout : w'.out = w.out ++ l)
    (hl : ∀ o ∈ l, o.tells = false) :
    ∃ l, w'.out = w.out ++ l ∧
      (∀ o ∈ l, Justified P F (old ++ w'.out) w' o) ∧
      ∀ caller, .nack caller .consumerNotFound ∈ l →
        Refused P w w' caller := by
  refine ⟨l, hout, fun o ho => justified_of_not_tells (hl o ho),
    fun caller hn => ?_⟩
  have htells := hl _ hn
  cases htells

/-- What was observed stays observed. -/
theorem Adds.seen (h : Adds P F old w w') :
    ∀ o ∈ old ++ w.out, o ∈ old ++ w'.out := by
  obtain ⟨l, hl, -, -⟩ := h.out
  intro o ho
  rw [hl, ← List.append_assoc]
  exact List.mem_append_left _ ho

section More

variable {P' : κ → TransportId → TransportUpdateC → Prop}
  {seen seen' : List (Out κ)}

/-- More was published and seen, and no consumer was dropped. -/
theorem Consumed.mono {caller : Caller κ} {c : MediaConsumer}
    (hc : Consumed P F seen w caller c)
    (hP : ∀ cb t u, P cb t u → P' cb t u)
    (hseen : ∀ o ∈ seen, o ∈ seen')
    (hcons : ∀ t, (w.consumerOf t).isSome = true →
      (w'.consumerOf t).isSome = true) :
    Consumed P' F seen' w' caller c := by
  obtain ⟨t, caps, p, x, hp, hx, hf, ht⟩ := hc
  exact ⟨t, caps, p, x, hP _ _ _ hp, hseen _ hx, hf, hcons t ht⟩

/-- What justifies an ack stays true. -/
theorem Acked.mono {caller : Caller κ} {resp : Option TransportUpdateAck}
    (ha : Acked P F seen w caller resp)
    (hP : ∀ cb t u, P cb t u → P' cb t u)
    (hseen : ∀ o ∈ seen, o ∈ seen')
    (hcons : ∀ t, (w.consumerOf t).isSome = true →
      (w'.consumerOf t).isSome = true) :
    Acked P' F seen' w' caller resp := by
  cases ha with
  | connect hp => exact .connect (hP _ _ _ hp)
  | produce hp hx => exact .produce (hP _ _ _ hp) (hseen _ hx)
  | consume hc => exact .consume (hc.mono hP hseen hcons)
  | resume hp => exact .resume (hP _ _ _ hp)

/-- What justifies a mark stays true. -/
theorem Justified.mono {o : Out κ} (ho : Justified P F seen w o)
    (hP : ∀ cb t u, P cb t u → P' cb t u)
    (hseen : ∀ o ∈ seen, o ∈ seen')
    (hcons : ∀ t, (w.consumerOf t).isSome = true →
      (w'.consumerOf t).isSome = true) : Justified P' F seen' w' o := by
  cases o with
  | produced p x =>
      obtain ⟨caller, kind, rtp, hp, ha⟩ := ho
      exact ⟨caller, kind, rtp, hP _ _ _ hp, hseen _ ha⟩
  | ack caller resp => exact Acked.mono ho hP hseen hcons
  | _ => trivial

/-- What backs an operation stays true. -/
theorem Backed.mono {transports transports' : JsMap TransportId
      WebRtcTransport} {op : Operation κ} (hop : Backed P seen transports op)
    (hP : ∀ cb t u, P cb t u → P' cb t u)
    (hseen : ∀ o ∈ seen, o ∈ seen')
    (htr : ∀ t T, transports.get? t = some T →
      transports'.get? t = some T) : Backed P' seen' transports' op := by
  cases hop with
  | createRouter => exact .createRouter
  | createWebRtcTransport => exact .createWebRtcTransport
  | connect hp => exact .connect (hP _ _ _ hp)
  | produce hp => exact .produce (hP _ _ _ hp)
  | consume hp hx hT => exact .consume (hP _ _ _ hp) (hseen _ hx) (htr _ _ hT)
  | resume hp => exact .resume (hP _ _ _ hp)

end More

/-- A consumer made so far stays one. -/
theorem Adds.consumed (h : Adds P F old w w') {caller : Caller κ}
    {c : MediaConsumer} (hc : Consumed P F (old ++ w.out) w caller c) :
    Consumed P F (old ++ w'.out) w' caller c :=
  hc.mono (fun _ _ _ hp => hp) h.seen h.consumers

theorem Adds.just (h : Adds P F old w w') {o : Out κ}
    (ho : Justified P F (old ++ w.out) w o) :
    Justified P F (old ++ w'.out) w' o :=
  ho.mono (fun _ _ _ hp => hp) h.seen h.consumers

theorem Adds.backed (h : Adds P F old w w') {op : Operation κ}
    (hop : Backed P (old ++ w.out) w.transports op) :
    Backed P (old ++ w'.out) w'.transports op :=
  hop.mono (fun _ _ _ hp => hp) h.seen h.transports

/-- What waits goes on waiting. -/
theorem Adds.waits (h : Adds P F old w w') {p : TransportId}
    {e : PendingConsume κ} (he : Waits P w.transports p e) :
    Waits P w'.transports p e :=
  ⟨he.published, he.producing, h.transports _ _ he.registered⟩

theorem Adds.refl (w : SfuWorker κ) : Adds P F old w w where
  transports _ _ h := h
  consumers _ h := h
  operations _ h := .inl h
  waiting _ l _ hl he := .inl ⟨l, hl, he⟩
  attempted _ _ h := .inl h
  producers _ _ _ h := .inl h
  out := quiet_out (List.append_nil _).symm fun _ h => by cases h

theorem Adds.trans (h : Adds P F old w w') (h' : Adds P F old w' w'') :
    Adds P F old w w'' where
  transports t T hT := h'.transports t T (h.transports t T hT)
  consumers t ht := h'.consumers t (h.consumers t ht)
  operations op hop := by
    rcases h'.operations op hop with hop | hop
    · exact (h.operations op hop).imp_right h'.backed
    · exact .inr hop
  waiting p l'' e hl he := by
    rcases h'.waiting p l'' e hl he with ⟨l', hl', he⟩ | he
    · exact (h.waiting p l' e hl' he).imp_right h'.waits
    · exact .inr he
  attempted caller c ht := by
    rcases h'.attempted caller c ht with ht | ht
    · exact (h.attempted caller c ht).imp_right h'.consumed
    · exact .inr ht
  producers r p x hx := by
    rcases h'.producers r p x hx with hx | hx
    · exact (h.producers r p x hx).imp_right (h'.seen _)
    · exact .inr hx
  out := by
    obtain ⟨l, hl, hj, hn⟩ := h.out
    obtain ⟨l', hl', hj', hn'⟩ := h'.out
    refine ⟨l ++ l', by rw [hl', hl, List.append_assoc], fun o ho => ?_,
      fun caller ho => ?_⟩
    · rcases List.mem_append.mp ho with ho | ho
      · exact h'.just (hj o ho)
      · exact hj' o ho
    · rcases List.mem_append.mp ho with ho | ho
      · obtain ⟨t, hp, ht, hc⟩ := hn caller ho
        obtain ⟨T, hT⟩ := Option.isSome_iff_exists.mp (JsMap.mem_keys.mp ht)
        exact ⟨t, hp, JsMap.mem_keys_of_get? (h'.transports t T hT), hc⟩
      · obtain ⟨t, hp, ht, hc⟩ := hn' caller ho
        refine ⟨t, hp, ht, Option.not_isSome_iff_eq_none.mp fun hs => ?_⟩
        have := h.consumers t hs
        rw [hc] at this
        cases this

/-- **What is added keeps the worker traced.** -/
theorem Adds.traced (h : Adds P F old w w') (ht : Traced P F old w) :
    Traced P F old w' where
  operations op hop := (h.operations op hop).elim
    (fun hop => h.backed (ht.operations op hop)) id
  waiting p l e hl he := by
    rcases h.waiting p l e hl he with ⟨l₀, hl₀, he⟩ | he
    · exact h.waits (ht.waiting p l₀ e hl₀ he)
    · exact he
  attempted caller c hc := (h.attempted caller c hc).elim
    (fun hc => h.consumed (ht.attempted caller c hc)) id
  producers r p x hx := (h.producers r p x hx).elim
    (fun hx => h.seen _ (ht.producers r p x hx)) id
  justified o ho := by
    obtain ⟨l, hl, hj, -⟩ := h.out
    rw [hl, ← List.append_assoc] at ho
    rcases List.mem_append.mp ho with ho | ho
    · exact h.just (ht.justified o ho)
    · exact hj o ho

/-! ## §3. Parts of a stretch. -/

/-- A stretch that registers nothing and says nothing about media. -/
theorem Adds.quiet (transports : w'.transports = w.transports)
    (consumers : ∀ t, w'.consumerOf t = w.consumerOf t)
    (producers : ∀ r p, w'.producerOf r p = w.producerOf r p)
    (pending : w'.pendingConsumes = w.pendingConsumes)
    (operations : ∀ op ∈ w'.operations, op ∈ w.operations ∨
      Backed P (old ++ w'.out) w'.transports op)
    (attempted : ∀ caller c, .attempted caller (some c) ∈ w'.tasks →
      .attempted caller (some c) ∈ w.tasks)
    (out : ∃ l, w'.out = w.out ++ l ∧ ∀ o ∈ l, o.tells = false) :
    Adds P F old w w' where
  transports t T hT := by rwa [transports]
  consumers t ht := by rwa [consumers]
  operations := operations
  waiting p l e hl he := .inl ⟨l, pending ▸ hl, he⟩
  attempted caller c ht := .inl (attempted caller c ht)
  producers r p x hx := .inl (producers r p ▸ hx)
  out := by
    obtain ⟨l, hl, hs⟩ := out
    exact quiet_out hl hs

/-- Observations that say nothing about media. -/
theorem emitAll_adds (w : SfuWorker κ) {l : List (Out κ)}
    (hl : ∀ o ∈ l, o.tells = false) :
    Adds P F old w { w with out := w.out ++ l } :=
  .quiet rfl (fun _ => rfl) (fun _ _ => rfl) rfl (fun _ h => .inl h)
    (fun _ _ h => h) ⟨l, rfl, hl⟩

/-- A mark that says nothing of media needs no reason. -/
theorem emit_adds (w : SfuWorker κ) {o : Out κ} (ho : o.tells = false) :
    Adds P F old w (w.emit o) :=
  emitAll_adds w fun o' h => by rw [List.mem_singleton.mp h, ho]

theorem begin_adds (w : SfuWorker κ) (cb : κ) :
    Adds P F old w (w.begin cb) :=
  .quiet rfl (fun _ => rfl) (fun _ _ => rfl) rfl (fun _ h => .inl h)
    (fun _ _ h => h) ⟨[.handled ⟨w.requestIdGen, cb⟩], rfl, by
      simp [Out.tells]⟩

/-- An operation is started for a request that asks for it. -/
theorem start_adds (w : SfuWorker κ) {op : Operation κ}
    (hop : Backed P (old ++ w.out) w.transports op) :
    Adds P F old w (w.start op) :=
  .quiet rfl (fun _ => rfl) (fun _ _ => rfl) rfl
    (fun op' h => (List.mem_append.mp h).imp_right fun h => by
      rw [List.mem_singleton.mp h]
      exact hop)
    (fun _ _ h => h) ⟨[], (List.append_nil _).symm, by simp⟩

/-- A continuation that carries no consumer. -/
theorem defer_adds (w : SfuWorker κ) {t : Task κ}
    (ht : ∀ caller c, t ≠ .attempted caller (some c)) :
    Adds P F old w (w.defer t) :=
  .quiet rfl (fun _ => rfl) (fun _ _ => rfl) rfl (fun _ h => .inl h)
    (fun caller c h => (List.mem_append.mp h).elim id fun h =>
      absurd (List.mem_singleton.mp h).symm (ht caller c))
    ⟨[], (List.append_nil _).symm, by simp⟩

theorem withoutOperation_adds (w : SfuWorker κ) (i : Nat) :
    Adds P F old w (w.withoutOperation i) :=
  .quiet rfl (fun _ => rfl) (fun _ _ => rfl) rfl
    (fun _ h => .inl (List.mem_of_mem_eraseIdx h)) (fun _ _ h => h)
    ⟨[], (List.append_nil _).symm, by simp⟩

theorem withoutTask_adds (w : SfuWorker κ) (i : Nat) :
    Adds P F old w (w.withoutTask i) :=
  .quiet rfl (fun _ => rfl) (fun _ _ => rfl) rfl (fun _ h => .inl h)
    (fun _ _ h => List.mem_of_mem_eraseIdx h)
    ⟨[], (List.append_nil _).symm, by simp⟩

/-- Consumers after a change of one router. -/
theorem consumerOf_modify (w : SfuWorker κ) (r : RouterId)
    {f : Router → Router}
    (hf : ∀ R, (f R).webRtcConsumers = R.webRtcConsumers)
    (t : TransportId) :
    SfuWorker.consumerOf { w with routers := w.routers.modify r f } t
      = w.consumerOf t := by
  simp only [SfuWorker.consumerOf]
  cases w.transports.get? t with
  | none => rfl
  | some T =>
    simp only [Option.bind_some, JsMap.get?_modify]
    split
    · rename_i h
      rw [h]
      cases w.routers.get? r with
      | none => rfl
      | some R => exact congrArg (JsMap.get? · t) (hf R)
    · rfl

/-- A change of a router that leaves producers and consumers alone. -/
theorem modifyRouter_adds (w : SfuWorker κ) (r : RouterId)
    {f : Router → Router}
    (hp : ∀ R, (f R).webRtcProducers = R.webRtcProducers)
    (hc : ∀ R, (f R).webRtcConsumers = R.webRtcConsumers) :
    Adds P F old w { w with routers := w.routers.modify r f } :=
  .quiet rfl (consumerOf_modify w r hc) (producerOf_modify w r hp) rfl
    (fun _ h => .inl h) (fun _ _ h => h)
    ⟨[], (List.append_nil _).symm, by simp⟩

section Answers

variable [Callback κ]

omit [Callback κ] in
theorem tells_nack {caller : Caller κ} {error : UpdateError}
    {l : List (Out κ)} (he : error ≠ .consumerNotFound)
    (hl : ∀ o ∈ l, o.silent = true) :
    ∀ o ∈ .nack caller error :: l, o.tells = false := by
  intro o ho
  rcases List.mem_cons.mp ho with rfl | ho
  · cases error with
    | consumerNotFound => exact absurd rfl he
    | producingTransportNotFound | differentRouters |
      producerDisappeared | thrown => rfl
  · have := hl o ho
    cases o <;> first | rfl | cases this

/-- A nack needs no reason, unless it denies a consumer. -/
theorem nackSync_adds (w : SfuWorker κ) (caller : Caller κ)
    {error : UpdateError} (he : error ≠ .consumerNotFound) :
    Adds P F old w (w.nackSync caller error) := by
  obtain ⟨l, heq, hs⟩ := nackSync_eq w caller error
  rw [heq]
  exact emitAll_adds w (tells_nack he hs)

theorem nackCatch_adds (w : SfuWorker κ) (caller : Caller κ)
    (message : String) :
    Adds P F old w (w.nackCatch caller (.thrown message)) := by
  obtain ⟨l, heq, hs⟩ := nackCatch_eq w caller (.thrown message)
  rw [heq]
  exact emitAll_adds w (tells_nack (by simp) hs)

/-- Nor does the nack for a producer that has gone. -/
theorem producerDisappeared_adds (w : SfuWorker κ) (caller : Caller κ) :
    Adds P F old w (w.nackThen caller .producerDisappeared) := by
  have h : Adds P F old w (w.emit (.nack caller .producerDisappeared)) :=
    emit_adds w rfl
  unfold SfuWorker.nackThen
  dsimp only
  split
  · exact h
  · exact h.trans (nackCatch_adds _ _ _)

/-- **A resume finds no consumer.** -/
theorem consumerNotFound_adds {caller : Caller κ} {t : TransportId}
    (hp : P caller.cb t .transportConsumerResumeEvent)
    (ht : t ∈ w.transports.keys) (hc : w.consumerOf t = none) :
    Adds P F old w (w.nackSync caller .consumerNotFound) := by
  obtain ⟨l, heq, hs⟩ := nackSync_eq w caller .consumerNotFound
  rw [heq]
  refine ⟨fun _ _ h => h, fun _ h => h, fun _ h => .inl h,
    fun _ l _ hl he => .inl ⟨l, hl, he⟩, fun _ _ h => .inl h,
    fun _ _ _ h => .inl h, ⟨_, rfl, fun o ho => ?_, fun caller' hn => ?_⟩⟩
  · rcases List.mem_cons.mp ho with rfl | ho
    · trivial
    · have := hs o ho
      cases o <;> trivial
  · rcases List.mem_cons.mp hn with heq | hn
    · cases heq
      exact ⟨t, hp, ht, hc⟩
    · have := hs _ hn
      cases this

omit [Callback κ] in
/-- An ack that rests on what was seen. -/
theorem emitAck_adds (w : SfuWorker κ) {caller : Caller κ}
    {resp : Option TransportUpdateAck}
    (ha : Acked P F (old ++ w.out) w caller resp) :
    Adds P F old w (w.emit (.ack caller resp)) where
  transports _ _ h := h
  consumers _ h := h
  operations _ h := .inl h
  waiting _ l _ hl he := .inl ⟨l, hl, he⟩
  attempted _ _ h := .inl h
  producers _ _ _ h := .inl h
  out := by
    refine ⟨[.ack caller resp], rfl, fun o ho => ?_, fun _ h => by simp at h⟩
    rw [List.mem_singleton.mp ho]
    refine ha.mono (fun _ _ _ hp => hp) (fun o ho => ?_) fun _ h => h
    show o ∈ old ++ (w.out ++ [.ack caller resp])
    rw [← List.append_assoc]
    exact List.mem_append_left _ ho

/-- An ack, and what follows it when the callback returns. -/
theorem ackThen_adds (w : SfuWorker κ) {caller : Caller κ}
    {resp : Option TransportUpdateAck} {k : SfuWorker κ → SfuWorker κ}
    (h : Adds P F old w (w.emit (.ack caller resp)))
    (hk : Adds P F old (w.emit (.ack caller resp))
      (k (w.emit (.ack caller resp)))) :
    Adds P F old w (w.ackThen caller resp k) := by
  unfold SfuWorker.ackThen
  dsimp only
  split
  · exact h.trans hk
  · exact h.trans (nackCatch_adds _ _ _)

end Answers

/-! ## §4. Consuming. -/

/-- A consume request is started, or found without a producer. -/
theorem consumeAndAck_adds (ht : Traced P F old w) {p : TransportId}
    {e : PendingConsume κ} (he : Waits P w.transports p e) :
    Adds P F old w (w.consumeAndAck e) := by
  unfold SfuWorker.consumeAndAck
  split
  · exact defer_adds w fun _ _ h => by cases h
  · rename_i x hx
    have hprod := ht.producers _ _ _ hx
    rw [he.producing] at hprod
    have hemit : Adds P F old w
        (w.emit (.mediaConsume e.caller.request x.id)) := emit_adds w rfl
    exact hemit.trans (start_adds _
      (hemit.backed (.consume he.published hprod he.registered)))

/-- The buffered requests of one transport, one after the other. -/
theorem foldl_consumeAndAck_adds {p : TransportId}
    {l : List (PendingConsume κ)} :
    ∀ {w : SfuWorker κ}, Traced P F old w →
      (∀ e ∈ l, Waits P w.transports p e) →
      Adds P F old w (l.foldl SfuWorker.consumeAndAck w) := by
  induction l with
  | nil => exact fun _ _ => .refl _
  | cons e l ih =>
      intro w ht hl
      have h := consumeAndAck_adds ht (hl e List.mem_cons_self)
      exact h.trans (ih (h.traced ht) fun e' he' =>
        h.waits (hl e' (List.mem_cons_of_mem _ he')))

/-- The requests that waited are taken up, each for its own transport. -/
theorem flush_adds (ht : Traced P F old w) (p : TransportId) :
    Adds P F old w (w.flush p) := by
  unfold SfuWorker.flush
  split
  · exact .refl w
  · rename_i l hl
    have h : Adds P F old w
        { w with pendingConsumes := w.pendingConsumes.delete p } :=
      ⟨fun _ _ h => h, fun _ h => h, fun _ h => .inl h,
        fun q l' e hl' he => .inl ⟨l', JsMap.get?_of_get?_delete hl', he⟩,
        fun _ _ h => .inl h, fun _ _ _ h => .inl h,
        quiet_out (List.append_nil _).symm (by simp)⟩
    exact h.trans (foldl_consumeAndAck_adds (h.traced ht)
      fun e he => h.waits (ht.waiting p l e hl he))

/-- A consume request joins the buffer. -/
theorem buffer_adds (w : SfuWorker κ) {p : TransportId}
    {e : PendingConsume κ} (he : Waits P w.transports p e) :
    Adds P F old w { w with
      pendingConsumes := w.pendingConsumes.set p
        (((w.pendingConsumes.get? p).getD []) ++ [e]) } where
  transports _ _ h := h
  consumers _ h := h
  operations _ h := .inl h
  waiting q l' e' hl he' := by
    rw [JsMap.get?_set] at hl
    split at hl
    · rename_i hq
      subst hq
      cases hl
      rcases List.mem_append.mp he' with he' | he'
      · cases hl₀ : w.pendingConsumes.get? q with
        | none =>
            rw [hl₀] at he'
            exact absurd he' List.not_mem_nil
        | some l₀ =>
            rw [hl₀] at he'
            exact .inl ⟨l₀, rfl, he'⟩
      · rw [List.mem_singleton.mp he']
        exact .inr he
    · exact .inl ⟨l', hl, he'⟩
  attempted _ _ h := .inl h
  producers _ _ _ h := .inl h
  out := quiet_out (List.append_nil _).symm (by simp)

section Handlers

variable [Callback κ]

/-- A consume request is rejected, kept, or taken up. -/
theorem onConsume_adds (hwf : SetupWF w) (ht : Traced P F old w)
    {id p : TransportId} {T : WebRtcTransport} {rtpCapabilities : Json}
    {caller : Caller κ} (hT : w.transports.get? id = some T)
    (hp : P caller.cb id
      (.transportConsumerConsumeEvent rtpCapabilities p)) :
    Adds P F old w (w.onConsume T rtpCapabilities p caller) := by
  unfold SfuWorker.onConsume
  split
  · exact nackSync_adds w caller (by simp)
  · rename_i Q hQ
    split
    · exact nackSync_adds w caller (by simp)
    · have hid := hwf.transportId id T hT
      have he : Waits P w.transports p
          { consumerTransport := T, producingTransport := Q,
            rtpCapabilities, caller } :=
        ⟨hid.symm ▸ hp, hwf.transportId p Q hQ, hid.symm ▸ hT⟩
      have h : Adds P F old w _ := (modifyRouter_adds w T.router
        (f := fun r => { r with
          producerToConsumersSet :=
            r.producerToConsumersSet.addTo p T.id })
        (fun _ => rfl) (fun _ => rfl)).trans
          (emit_adds _ (o := .accepted caller.request p) rfl)
      dsimp only
      split
      · exact h.trans (buffer_adds _ he)
      · exact h.trans (consumeAndAck_adds (h.traced ht) (h.waits he))

/-- An update for a transport of this worker. -/
theorem onTransportUpdate_adds (hwf : SetupWF w) (ht : Traced P F old w)
    {id : TransportId} {T : WebRtcTransport} {update : TransportUpdateC}
    {cb : κ} (hT : w.transports.get? id = some T) (hp : P cb id update) :
    Adds P F old w (w.onTransportUpdate id update cb) := by
  have hid := hwf.transportId id T hT
  have h : Adds P F old w (w.begin cb) := begin_adds w cb
  unfold SfuWorker.onTransportUpdate
  rw [hT]
  cases update with
  | transportConnectEvent dtlsParameters =>
      exact h.trans (start_adds _ (.connect (hid.symm ▸ hp)))
  | transportProducerProduceEvent kind rtpParameters =>
      exact h.trans (start_adds _ (.produce (hid.symm ▸ hp)))
  | transportConsumerConsumeEvent rtpCapabilities p =>
      exact h.trans (onConsume_adds (w := w.begin cb) { hwf with }
        (h.traced ht) hT hp)
  | transportConsumerResumeEvent =>
      dsimp only
      split
      · rename_i hnone
        have hc : (w.begin cb).consumerOf id = none := by
          unfold SfuWorker.consumerOf
          rw [show (w.begin cb).transports.get? id = some T from hT]
          exact hnone
        exact h.trans (consumerNotFound_adds hp
          (JsMap.mem_keys_of_get? (m := (w.begin cb).transports) hT) hc)
      · exact h.trans (start_adds _ (.resume hp))

/-! ## §5. Media promises. -/

omit [Callback κ] in
/-- A new producer is found under its own transport, and no other. -/
theorem producerOf_setProducer (w : SfuWorker κ) (T : WebRtcTransport)
    (x : MediaProducer) {r : RouterId} {p : TransportId}
    {y : MediaProducer}
    (h : SfuWorker.producerOf { w with
      routers := w.routers.modify T.router fun r =>
        { r with webRtcProducers := r.webRtcProducers.set T.id x } } r p
      = some y) : w.producerOf r p = some y ∨ p = T.id ∧ y = x := by
  simp only [SfuWorker.producerOf, JsMap.get?_modify] at h
  split at h
  · rename_i hr
    subst hr
    cases hR : w.routers.get? T.router with
    | none => simp [hR] at h
    | some R =>
      simp only [hR, Option.map_some, Option.bind_some, JsMap.get?_set] at h
      split at h
      · rename_i hp
        cases h
        exact .inr ⟨hp, rfl⟩
      · refine .inl ?_
        rw [SfuWorker.producerOf, hR]
        exact h
  · exact .inl h

/-- **A new producer**: acknowledged in the stretch that creates it. -/
theorem onProduced_adds (ht : Traced P F old w) {T : WebRtcTransport}
    {kind rtpParameters : Json} {caller : Caller κ} (x : MediaProducer)
    (hp : P caller.cb T.id
      (.transportProducerProduceEvent kind rtpParameters)) :
    Adds P F old w (w.onProduced T caller x) := by
  have h : Adds P F old w ((SfuWorker.emit { w with
      routers := w.routers.modify T.router fun r =>
        { r with webRtcProducers := r.webRtcProducers.set T.id x } }
      (.produced T.id x.id)).emit
        (.ack caller (some ⟨x.id, none, none, none⟩))) := by
    refine ⟨fun _ _ h => h, fun t h => ?_, fun _ h => .inl h,
      fun _ l _ hl he => .inl ⟨l, hl, he⟩, fun _ _ h => .inl h,
      fun r p y hy => ?_, ⟨[.produced T.id x.id,
        .ack caller (some ⟨x.id, none, none, none⟩)],
        by simp [SfuWorker.emit], fun o ho => ?_, fun _ h => by simp at h⟩⟩
    · exact (congrArg Option.isSome (consumerOf_modify w T.router
        (f := fun r => { r with
          webRtcProducers := r.webRtcProducers.set T.id x })
        (fun _ => rfl) t)).trans h
    · rcases producerOf_setProducer w T x hy with hy | ⟨rfl, rfl⟩
      · exact .inl hy
      · exact .inr (by simp [SfuWorker.emit])
    · rcases List.mem_cons.mp ho with rfl | ho
      · exact ⟨caller, kind, rtpParameters, hp, by simp [SfuWorker.emit]⟩
      · rw [List.mem_singleton.mp ho]
        exact .produce hp (by simp [SfuWorker.emit])
  unfold SfuWorker.onProduced SfuWorker.ackThen
  dsimp only
  split
  · exact h.trans (flush_adds (h.traced ht) T.id)
  · exact h.trans (nackCatch_adds _ _ _)

omit [Callback κ] in
/-- **A new consumer**: registered before its ack can run. -/
theorem onConsumed_adds (hwf : SetupWF w) {T : WebRtcTransport}
    {p : TransportId} {rtpCapabilities : Json} {x : String}
    {caller : Caller κ} {c : MediaConsumer}
    (hp : P caller.cb T.id
      (.transportConsumerConsumeEvent rtpCapabilities p))
    (hx : .produced p x ∈ old ++ w.out)
    (hT : w.transports.get? T.id = some T) (hf : F x c) :
    Adds P F old w (w.onConsumed T caller c) := by
  -- the consumer is stored under its transport, on the transport's router
  have hset : ∀ t, (w.onConsumed T caller c).consumerOf t
      = if t = T.id then some c else w.consumerOf t := by
    intro t
    show Option.bind (w.transports.get? t) (fun U =>
      Option.bind ((w.routers.modify T.router _).get? U.router) _) = _
    split
    · rename_i heq
      subst heq
      obtain ⟨R, hR⟩ := Option.isSome_iff_exists.mp
        (JsMap.mem_keys.mp (hwf.transportRouter _ T hT))
      rw [hT, Option.bind_some, JsMap.get?_modify, if_pos rfl, hR]
      exact JsMap.get?_set_self _ _ _
    · rename_i hne
      unfold SfuWorker.consumerOf
      cases w.transports.get? t with
      | none => rfl
      | some U =>
        simp only [Option.bind_some, JsMap.get?_modify]
        split
        · rename_i heq
          rw [heq]
          cases w.routers.get? T.router with
          | none => rfl
          | some R => exact JsMap.get?_set_of_ne _ _ hne
        · rfl
  refine ⟨fun _ _ h => h, fun t h => ?_, fun _ h => .inl h,
    fun _ l _ hl he => .inl ⟨l, hl, he⟩, fun caller' c' h => ?_,
    fun r q y hy => ?_, quiet_out (List.append_nil _).symm (by simp)⟩
  · rw [hset]
    split
    · rfl
    · exact h
  -- the ack that is added rests on the producer the consume was made with
  · refine (List.mem_append.mp h).imp_right fun h => ?_
    cases List.mem_singleton.mp h
    exact ⟨T.id, rtpCapabilities, p, x, hp, hx, hf, by
      rw [hset, if_pos rfl, Option.isSome_some]⟩
  · exact .inl ((producerOf_modify w T.router
      (f := fun r => { r with
        webRtcConsumers := r.webRtcConsumers.set T.id c })
      (fun _ => rfl) r q).symm.trans hy)

/-- An update operation is fulfilled. -/
theorem fulfilled_adds (hwf : SetupWF w) (ht : Traced P F old w) {i : Nat}
    {op : Operation κ} {value : MediaValue}
    (hop : w.operations[i]? = some op) (hs : op.isSetup = false)
    (hf : ∀ T x caps paused caller c,
      op = .consume T x caps paused caller → value = .consumer c → F x c)
    (h : SfuWorker.onFulfilled (w.withoutOperation i) op value = some w') :
    Adds P F old w w' := by
  have htake : Adds P F old w (w.withoutOperation i) :=
    withoutOperation_adds w i
  have hback := htake.backed (ht.operations op (List.mem_of_getElem? hop))
  have hwf' : SetupWF (w.withoutOperation i) :=
    hwf.of_sublist (List.eraseIdx_sublist _ _)
  have ht' := htake.traced ht
  refine htake.trans ?_
  generalize w.withoutOperation i = d at *
  cases hback with
  | createRouter | createWebRtcTransport => cases hs
  | connect hp =>
      cases value <;> cases h
      exact ackThen_adds d (emitAck_adds d (.connect hp)) (.refl _)
  | resume hp =>
      cases value <;> cases h
      exact ackThen_adds d (emitAck_adds d (.resume hp)) (.refl _)
  | produce hp =>
      cases value <;> cases h
      exact onProduced_adds ht' _ hp
  | consume hp hx hT =>
      cases value with
      | consumer c =>
          cases h
          exact onConsumed_adds hwf' hp hx hT (hf _ _ _ _ _ c rfl rfl)
      | router | transport | done | producer => cases h

/-- An update operation is rejected. -/
theorem rejected_adds (w : SfuWorker κ) (i : Nat) {op : Operation κ}
    (hs : op.isSetup = false) (message : String) :
    Adds P F old w
      (SfuWorker.onRejected (w.withoutOperation i) message op) := by
  refine (withoutOperation_adds w i).trans ?_
  cases op with
  | createRouter | createWebRtcTransport => cases hs
  | connect | produce | consume | resume => exact nackCatch_adds _ _ _

/-- The end of a consume. -/
theorem attempted_adds (ht : Traced P F old w) {i : Nat}
    {caller : Caller κ} {consumer : Option MediaConsumer}
    (htask : w.tasks[i]? = some (.attempted caller consumer)) :
    Adds P F old w (SfuWorker.resumeTask (w.withoutTask i)
      (.attempted caller consumer)) := by
  have htake : Adds P F old w (w.withoutTask i) := withoutTask_adds w i
  refine htake.trans ?_
  cases consumer with
  | none => exact producerDisappeared_adds _ _
  | some c =>
      have hc := ht.attempted caller c (List.mem_of_getElem? htask)
      exact ackThen_adds _ (emitAck_adds _ (.consume (htake.consumed hc)))
        (.refl _)

end Handlers

/-! ## §6. Setup. -/

/-- Starting a setup operation. -/
theorem startSetup_adds (w : SfuWorker κ)
    {assignedRouters : JsSet RouterId}
    {assignedTransports : JsSet TransportId} {op : Operation κ}
    (hop : ∀ seen transports, Backed P seen transports op) :
    Adds P F old w
      ({ w with assignedRouters, assignedTransports }.start op) :=
  .quiet rfl (fun _ => rfl) (fun _ _ => rfl) rfl
    (fun op' h => (List.mem_append.mp h).imp_right fun h => by
      rw [List.mem_singleton.mp h]
      exact hop _ _)
    (fun _ _ h => h) ⟨[], (List.append_nil _).symm, by simp⟩

/-- A new router has no producers and no consumers. -/
theorem onRouterCreated_adds (hwf : SetupWF w) {i : Nat} {id : RouterId}
    (caps : Json) (hop : w.operations[i]? = some (.createRouter id)) :
    Adds P F old w ((w.withoutOperation i).onRouterCreated id caps) := by
  obtain ⟨-, hnew, -⟩ := hwf.of_createRouter hop
  have hget : ∀ {R : Router} {r : RouterId}, r ∈ w.routers.keys →
      (w.routers.set id R).get? r = w.routers.get? r := by
    intro R r hr
    refine JsMap.get?_set_of_ne _ _ ?_
    rintro rfl
    exact hnew hr
  refine .quiet rfl (fun t => ?_) (fun r p => ?_) rfl
    (fun _ h => .inl (List.mem_of_mem_eraseIdx h)) (fun caller c h => ?_)
    ⟨[], (List.append_nil _).symm, by simp⟩
  · show Option.bind (w.transports.get? t) (fun T =>
      Option.bind ((w.routers.set id _).get? T.router) _) = _
    unfold SfuWorker.consumerOf
    cases hT : w.transports.get? t with
    | none => rfl
    | some T =>
      rw [Option.bind_some, Option.bind_some,
        hget (hwf.transportRouter t T hT)]
  · show Option.bind ((w.routers.set id _).get? r) _ = _
    rw [JsMap.get?_set]
    split
    · rename_i heq
      subst heq
      rw [SfuWorker.producerOf, JsMap.get?_eq_none_iff.mpr hnew]
      rfl
    · rfl
  · rcases List.mem_append.mp h with h | h
    · exact h
    · cases List.mem_singleton.mp h

/-- A new transport has no consumer. -/
theorem onTransportCreated_adds (hwf : SetupWF w) {i : Nat} {r : RouterId}
    {id : TransportId} {isProducer : Bool} (params : Json)
    (hop : w.operations[i]?
      = some (.createWebRtcTransport r id isProducer)) :
    Adds P F old w ((w.withoutOperation i).onTransportCreated r id
      isProducer params) := by
  obtain ⟨-, hnew, -⟩ := hwf.of_createTransport hop
  have hget : ∀ t T, w.transports.get? t = some T →
      (w.transports.set id ⟨id, params, r⟩).get? t = some T := by
    intro t T hT
    refine (JsMap.get?_set_of_ne _ _ ?_).trans hT
    rintro rfl
    exact hnew (JsMap.mem_keys_of_get? hT)
  have hrouter : Adds P F old w { w with
      routers := w.routers.modify r fun R =>
        if isProducer then
          { R with
            webRtcProducerTransports :=
              JsSet.add R.webRtcProducerTransports id }
        else
          { R with
            webRtcConsumerTransports :=
              JsSet.add R.webRtcConsumerTransports id } } :=
    modifyRouter_adds w r (fun R => by cases isProducer <;> rfl)
      (fun R => by cases isProducer <;> rfl)
  refine hrouter.trans ⟨hget, fun t h => ?_,
    fun _ h => .inl (List.mem_of_mem_eraseIdx h),
    fun _ l _ hl he => .inl ⟨l, hl, he⟩, fun _ _ h => .inl h,
    fun _ _ _ h => .inl h,
    quiet_out (l := [.transportAck id params]) rfl (by simp [Out.tells])⟩
  · cases hT : w.transports.get? t with
    | none => simp [SfuWorker.consumerOf, hT] at h
    | some T =>
      simp only [SfuWorker.consumerOf, hT, Option.bind_some] at h
      show Option.isSome (Option.bind
        ((w.transports.set id ⟨id, params, r⟩).get? t) _) = true
      rw [hget t T hT]
      exact h

/-! ## §7. Every stretch. -/

/-- The producer a media operation consumes. -/
def Operation.consumed : Operation κ → Option String
  | .consume _ producerId _ _ _ => some producerId
  | _ => none

/-- What the media library promises: a consume of `x` that is fulfilled is
fulfilled with a consumer `F` admits. -/
def Fulfils (F : String → MediaConsumer → Prop) (w : SfuWorker κ) :
    Action κ → Prop
  | .fulfilled i (.consumer c) =>
      ∀ op ∈ w.operations[i]?, ∀ x ∈ op.consumed, F x c
  | _ => True

instance [∀ x c, Decidable (F x c)] (w : SfuWorker κ) (a : Action κ) :
    Decidable (Fulfils F w a) := by
  unfold Fulfils
  split <;> infer_instance

/-- **What a stretch adds is traced**, when the update it handles was
published. -/
theorem act_adds [Callback κ] (hwf : SetupWF w) (ht : Traced P F old w)
    {a : Action κ} (h : w.act a = some w') (hf : Fulfils F w a)
    (hp : ∀ id update cb, a = .transportUpdate id update cb →
      P cb id update) : Adds P F old w w' := by
  -- by the action: only answers of `consume` create a consumer
  cases a with
  | newRouterRequest id workerId =>
      simp only [SfuWorker.act] at h
      split at h
      · cases h
      · cases h
        unfold SfuWorker.onNewRouterRequest
        split
        · exact startSetup_adds w fun _ _ => .createRouter
        · exact .refl w
  | newWebRtcTransportRequest r id isProducer =>
      simp only [SfuWorker.act] at h
      split at h
      · cases h
      · cases h
        unfold SfuWorker.onNewWebRtcTransportRequest
        split
        · exact startSetup_adds w fun _ _ => .createWebRtcTransport
        · exact .refl w
  | transportUpdate id update cb =>
      cases h
      cases hT : w.transports.get? id with
      | none =>
          unfold SfuWorker.onTransportUpdate
          rw [hT]
          exact .refl w
      | some T =>
          exact onTransportUpdate_adds hwf ht hT (hp id update cb rfl)
  | fulfilled i value =>
      obtain ⟨op, hop, h⟩ := Option.bind_eq_some_iff.mp h
      cases op with
      | createRouter id =>
          cases value <;> cases h
          exact onRouterCreated_adds hwf _ hop
      | createWebRtcTransport r id isProducer =>
          cases value <;> cases h
          exact onTransportCreated_adds hwf _ hop
      -- mediasoup's answer is what the guard is about
      | connect | produce | consume | resume =>
          refine fulfilled_adds hwf ht hop rfl ?_ h
          intro T x caps paused caller c heq hv
          subst hv
          exact hf _ hop x (by rw [heq]; rfl)
  | rejected i message =>
      obtain ⟨op, hop, rfl⟩ := Option.map_eq_some_iff.mp h
      cases op with
      | createRouter | createWebRtcTransport =>
          exact (withoutOperation_adds w i).trans (emit_adds _ rfl)
      | connect | produce | consume | resume =>
          exact rejected_adds w i rfl message
  | resume i =>
      obtain ⟨t, htask, rfl⟩ := Option.map_eq_some_iff.mp h
      cases t with
      | routerCreated id rtpCapabilities =>
          exact (withoutTask_adds w i).trans (emit_adds _ rfl)
      | attempted caller consumer => exact attempted_adds ht htask

/-- More was published, and the outbox became part of what was seen. -/
theorem Traced.mono {P' : κ → TransportId → TransportUpdateC → Prop}
    (ht : Traced P F old w) (hP : ∀ cb t u, P cb t u → P' cb t u)
    {old' out' : List (Out κ)}
    (hout : ∀ o, o ∈ old' ++ out' ↔ o ∈ old ++ w.out) :
    Traced P' F old' { w with out := out' } where
  operations op hop := (ht.operations op hop).mono hP
    (fun o ho => (hout o).mpr ho) fun _ _ h => h
  waiting p l e hl he :=
    have h := ht.waiting p l e hl he
    ⟨hP _ _ _ h.published, h.producing, h.registered⟩
  attempted caller c hc := (ht.attempted caller c hc).mono hP
    (fun o ho => (hout o).mpr ho) fun _ h => h
  producers r p x hx := (hout _).mpr (ht.producers r p x hx)
  justified o ho := (ht.justified o ((hout o).mp ho)).mono hP
    (fun o ho => (hout o).mpr ho) fun _ h => h

/-- A new worker owes no reason. -/
theorem traced_initial (workerId : WorkerId) :
    Traced P F [] (SfuWorker.initial workerId : SfuWorker κ) where
  operations _ h := by cases h
  waiting _ _ _ h := by cases h
  attempted _ _ h := by cases h
  producers _ _ _ h := by cases h
  justified _ h := by cases h

end Rules

end Twolk.Worker
