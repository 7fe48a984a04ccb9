/-
  Twolk.Worker.Buffering
  ──────────────────────
  **NO CONSUME REQUEST IS LOST OR ANSWERED TWICE.**

  A consume request that passed the checks waits in `pendingConsumes`, or is
  under way at the media transport, or has been answered.  The invariant
  counts it: the three numbers add up to one.  It holds because a producer
  is registered and the requests waiting for it are flushed in one stretch,
  so a request is buffered exactly when its producer is missing, and a
  flushed request finds it.

  Almost every stretch moves at most one request from "under way" to
  "answered"; `BufferFrame` is that case.  Three do more: accepting a
  request into the buffer, accepting it directly, and a new producer.
-/
import Twolk.Worker.Setup

namespace Twolk.Worker

open Twolk.Lib

variable {κ : Type}

/-! ## §1. Where a request is. -/

/-- How often request `n` waits for a producer on transport `p`. -/
def SfuWorker.buffered (w : SfuWorker κ) (p : TransportId) (n : Nat) : Nat :=
  ((w.pendingConsumes.get? p).getD []).countP fun e => e.caller.request = n

/-- The media operation belongs to consume request `n`. -/
def Operation.consumes (n : Nat) : Operation κ → Bool
  | .consume _ _ _ _ caller => caller.request == n
  | _ => false

/-- The ready continuation belongs to consume request `n`. -/
def Task.consumes (n : Nat) : Task κ → Bool
  | .attempted caller _ => caller.request == n
  | .routerCreated .. => false

/-- How often request `n` is under way: at the media transport, or settled
there with its continuation still to run. -/
def SfuWorker.inFlight (w : SfuWorker κ) (n : Nat) : Nat :=
  w.operations.countP (Operation.consumes n) +
    w.tasks.countP (Task.consumes n)

/-- The observation answers request `n`. -/
def Out.answers (n : Nat) : Out κ → Bool
  | .ack caller _ | .nack caller _ => caller.request == n
  | _ => false

/-- **What happens to consume requests**, after the observations `tr`. -/
structure ConsumesOnce (tr : List (Out κ)) (w : SfuWorker κ) : Prop where
  /-- In one place, once. -/
  place : ∀ n p, .accepted n p ∈ tr →
    w.buffered p n + w.inFlight n + tr.countP (Out.answers n) = 1
  /-- Under its producing transport only. -/
  elsewhere : ∀ n p q, .accepted n p ∈ tr → q ≠ p → w.buffered q n = 0
  noProducer : ∀ p ∈ w.pendingConsumes.keys, ∃ P,
    w.transports.get? p = some P ∧ w.producerOf P.router p = none
  notDisappeared : ∀ caller, .nack caller .producerDisappeared ∉ tr
  /-- A consume names a producer of the transport it was requested from. -/
  source : ∀ n x, .mediaConsume n x ∈ tr →
    ∃ p, .accepted n p ∈ tr ∧ .produced p x ∈ tr

/-! ## §2. The invariant. -/

/-- The request a `connect`, `produce` or `resume` answers. -/
def Operation.other : Operation κ → Option Nat
  | .connect _ _ caller | .produce _ _ _ caller | .resume _ caller =>
      some caller.request
  | _ => none

theorem Operation.other_of_isSetup {op : Operation κ}
    (h : op.isSetup = true) : op.other = none := by
  cases op with
  | createRouter | createWebRtcTransport => rfl
  | connect | produce | consume | resume => cases h

/-- A buffered request: its transports are those of this worker, on one
router. -/
structure Waiting (tr : List (Out κ)) (w : SfuWorker κ) (p : TransportId)
    (e : PendingConsume κ) : Prop where
  accepted : .accepted e.caller.request p ∈ tr ++ w.out
  producing : w.transports.get? p = some e.producingTransport
  router : e.consumerTransport.router = e.producingTransport.router

/-- Where the accepted consume requests are: each is in one place, and has been
answered once it is in none. -/
structure BufferInv (tr : List (Out κ)) (w : SfuWorker κ) : Prop where
  fresh : ∀ n, w.requestIdGen ≤ n → w.inFlight n = 0 ∧
    (tr ++ w.out).countP (Out.answers n) = 0 ∧
    ∀ p, .accepted n p ∉ tr ++ w.out
  place : ∀ n p, .accepted n p ∈ tr ++ w.out →
    w.buffered p n + w.inFlight n + (tr ++ w.out).countP (Out.answers n) = 1
  unique : ∀ n p q, .accepted n p ∈ tr ++ w.out →
    .accepted n q ∈ tr ++ w.out → p = q
  waiting : ∀ p l e, w.pendingConsumes.get? p = some l → e ∈ l →
    Waiting tr w p e
  noProducer : ∀ p ∈ w.pendingConsumes.keys, ∃ P,
    w.transports.get? p = some P ∧ w.producerOf P.router p = none
  producing : ∀ P kind rtp caller, .produce P kind rtp caller ∈ w.operations →
    w.transports.get? P.id = some P
  others : ∀ op ∈ w.operations, ∀ n, op.other = some n →
    n < w.requestIdGen ∧ ∀ p, .accepted n p ∉ tr ++ w.out
  produced : ∀ r p x, w.producerOf r p = some x →
    .produced p x.id ∈ tr ++ w.out
  source : ∀ n x, .mediaConsume n x ∈ tr ++ w.out →
    ∃ p, .accepted n p ∈ tr ++ w.out ∧ .produced p x ∈ tr ++ w.out
  notDisappeared : ∀ caller, .nack caller .producerDisappeared ∉ tr ++ w.out
  attempted : ∀ caller, .attempted caller none ∉ w.tasks

/-- Observations that accept no consume request and create no producer, and
are not the nack that never happens. -/
def Out.plain : Out κ → Bool
  | .accepted .. | .mediaConsume .. | .produced .. |
    .nack _ .producerDisappeared => false
  | _ => true

/-- From `w` to `w'` requests under way are answered, at most. -/
structure BufferFrame (tr : List (Out κ)) (w w' : SfuWorker κ) : Prop where
  pendingConsumes : w'.pendingConsumes = w.pendingConsumes
  requestIdGen : w.requestIdGen ≤ w'.requestIdGen
  transports : ∀ t T, w.transports.get? t = some T →
    w'.transports.get? t = some T
  producerOf : ∀ r p, w'.producerOf r p = w.producerOf r p
  operations : ∀ op ∈ w'.operations, op ∈ w.operations ∨
    op.isSetup = true ∨ op.other = some w.requestIdGen ∧
      w.requestIdGen < w'.requestIdGen ∧
      ∀ P kind rtp caller, op = .produce P kind rtp caller →
        w.transports.get? P.id = some P
  attempted : ∀ caller, .attempted caller none ∈ w'.tasks →
    .attempted caller none ∈ w.tasks
  out : ∃ l, w'.out = w.out ++ l ∧ (∀ o ∈ l, o.plain = true) ∧
    ∀ n, w'.requestIdGen ≤ n ∨ (∃ p, .accepted n p ∈ tr ++ w.out) →
      w'.inFlight n + l.countP (Out.answers n) = w.inFlight n

section Frame

variable {tr : List (Out κ)} {w w' : SfuWorker κ}

/-- A step that leaves the consume requests alone keeps the invariant. -/
theorem BufferFrame.inv (h : BufferFrame tr w w') (hI : BufferInv tr w) :
    BufferInv tr w' := by
  obtain ⟨l, hl, hplain, hcount⟩ := h.out
  have hout : tr ++ w'.out = tr ++ w.out ++ l := by
    rw [hl, List.append_assoc]
  -- an entry that is not plain was there before
  have hnew : ∀ o : Out κ, o.plain = false → o ∈ tr ++ w'.out →
      o ∈ tr ++ w.out := by
    intro o ho hmem
    rw [hout] at hmem
    refine (List.mem_append.mp hmem).resolve_right fun hm => ?_
    rw [hplain o hm] at ho
    cases ho
  have hold : ∀ o : Out κ, o ∈ tr ++ w.out → o ∈ tr ++ w'.out := by
    intro o ho
    rw [hout]
    exact List.mem_append_left _ ho
  have hans : ∀ n, (tr ++ w'.out).countP (Out.answers n)
      = (tr ++ w.out).countP (Out.answers n) + l.countP (Out.answers n) := by
    intro n
    rw [hout, List.countP_append]
  have hacc : ∀ n p, .accepted n p ∈ tr ++ w'.out →
      .accepted n p ∈ tr ++ w.out := fun n p => hnew _ rfl
  -- clause by clause: numbers of requests only grow, and answers go to these
  constructor
  case fresh =>
    intro n hn
    obtain ⟨hf, ha, hacc'⟩ := hI.fresh n (h.requestIdGen.trans hn)
    have := hcount n (.inl hn)
    rw [hans]
    exact ⟨by omega, by omega, fun p hp => hacc' p (hacc n p hp)⟩
  -- a request stays where it is counted, or moves from one place to another
  case place =>
    intro n p hp
    have hp := hacc n p hp
    have h₁ := hI.place n p hp
    have h₂ := hcount n (.inr ⟨p, hp⟩)
    rw [hans, SfuWorker.buffered, h.pendingConsumes]
    rw [SfuWorker.buffered] at h₁
    omega
  case unique =>
    exact fun n p q hp hq => hI.unique n p q (hacc n p hp) (hacc n q hq)
  case waiting =>
    intro p l e hl he
    rw [h.pendingConsumes] at hl
    have hw := hI.waiting p l e hl he
    exact ⟨hold _ hw.accepted, h.transports _ _ hw.producing, hw.router⟩
  case noProducer =>
    intro p hp
    rw [h.pendingConsumes] at hp
    obtain ⟨P, hP, hn⟩ := hI.noProducer p hp
    exact ⟨P, h.transports _ _ hP, (h.producerOf _ _).trans hn⟩
  -- an operation is an older one, or is begun on a transport that is there
  case producing =>
    intro P kind rtp caller hop
    rcases h.operations _ hop with hop | hop | ⟨-, -, hP⟩
    · exact h.transports _ _ (hI.producing P kind rtp caller hop)
    · cases hop
    · exact h.transports _ _ (hP P kind rtp caller rfl)
  case others =>
    intro op hop n hn
    rcases h.operations _ hop with hop | hop | ⟨ho, hlt, -⟩
    · obtain ⟨hlt, hno⟩ := hI.others op hop n hn
      exact ⟨Nat.lt_of_lt_of_le hlt h.requestIdGen,
        fun p hp => hno p (hacc n p hp)⟩
    · rw [Operation.other_of_isSetup hop] at hn
      cases hn
    · cases ho.symm.trans hn
      exact ⟨hlt, fun p hp =>
        (hI.fresh _ (Nat.le_refl _)).2.2 p (hacc _ p hp)⟩
  case produced =>
    intro r p x hx
    rw [h.producerOf] at hx
    exact hold _ (hI.produced r p x hx)
  case source =>
    intro n x hx
    obtain ⟨p, ha, hp⟩ := hI.source n x (hnew _ rfl hx)
    exact ⟨p, hold _ ha, hold _ hp⟩
  case notDisappeared =>
    exact fun caller hc => hI.notDisappeared caller (hnew _ rfl hc)
  case attempted =>
    exact fun caller hc => hI.attempted caller (h.attempted caller hc)

/-- The invariant says what `ConsumesOnce` promises. -/
theorem BufferInv.consumesOnce (hI : BufferInv tr { w with out := [] }) :
    ConsumesOnce tr w := by
  have hT : tr ++ ({ w with out := [] } : SfuWorker κ).out = tr :=
    List.append_nil _
  constructor
  case place =>
    intro n p hp
    have := hI.place n p (by rwa [hT])
    rwa [hT] at this
  case elsewhere =>
    intro n p q hp hq
    show List.countP _ ((w.pendingConsumes.get? q).getD []) = 0
    cases hl : w.pendingConsumes.get? q with
    | none => rfl
    | some l =>
      rw [Option.getD_some, List.countP_eq_zero]
      intro e he hn
      obtain rfl := of_decide_eq_true hn
      exact hq (hI.unique _ q p (hI.waiting q l e hl he).accepted
        (by rwa [hT]))
  case noProducer => exact hI.noProducer
  case notDisappeared =>
    intro caller hc
    exact hI.notDisappeared caller (by rwa [hT])
  case source =>
    intro n x hx
    obtain ⟨p, ha, hp⟩ := hI.source n x (by rwa [hT])
    rw [hT] at ha hp
    exact ⟨p, ha, hp⟩

/-! ## §3. Stretches that answer at most. -/

theorem BufferFrame.refl (tr : List (Out κ)) (w : SfuWorker κ) :
    BufferFrame tr w w where
  pendingConsumes := rfl
  requestIdGen := Nat.le_refl _
  transports _ _ h := h
  producerOf _ _ := rfl
  operations _ h := .inl h
  attempted _ h := h
  out := ⟨[], (List.append_nil _).symm, by simp, fun _ _ => rfl⟩

/-- Taking an operation takes a consume request out of those under way. -/
theorem inFlight_withoutOperation {i : Nat} {op : Operation κ}
    (hop : w.operations[i]? = some op) (n : Nat) :
    (w.withoutOperation i).inFlight n + (if op.consumes n then 1 else 0)
      = w.inFlight n := by
  have := countP_eraseIdx_add (Operation.consumes n) hop
  unfold SfuWorker.inFlight SfuWorker.withoutOperation
  dsimp only
  omega

/-- Taking up a continuation takes its request out of flight. -/
theorem inFlight_withoutTask {i : Nat} {t : Task κ}
    (ht : w.tasks[i]? = some t) (n : Nat) :
    (w.withoutTask i).inFlight n + (if t.consumes n then 1 else 0)
      = w.inFlight n := by
  have := countP_eraseIdx_add (Task.consumes n) ht
  unfold SfuWorker.inFlight SfuWorker.withoutTask
  dsimp only
  omega

theorem consumes_of_isSetup {op : Operation κ} (h : op.isSetup = true)
    (n : Nat) : op.consumes n = false := by
  cases op with
  | createRouter | createWebRtcTransport => rfl
  | connect | produce | consume | resume => cases h

/-- Starting a setup operation. -/
theorem BufferFrame.startSetup {assignedRouters : JsSet RouterId}
    {assignedTransports : JsSet TransportId} {op : Operation κ}
    (hop : op.isSetup = true) :
    BufferFrame tr w
      ({ w with assignedRouters, assignedTransports }.start op) :=
  { BufferFrame.refl tr w with
    operations := fun op' h => by
      rcases List.mem_append.mp h with h | h
      · exact .inl h
      · exact .inr (.inl (List.mem_singleton.mp h ▸ hop))
    out := ⟨[], (List.append_nil _).symm, by simp, fun n _ => by
      simp [SfuWorker.inFlight, SfuWorker.start, consumes_of_isSetup hop]⟩ }

/-- An operation ends with answers: one, when it was a consume. -/
theorem BufferFrame.endOperation {i : Nat} {op : Operation κ}
    (hop : w.operations[i]? = some op) {l : List (Out κ)}
    (hl : ∀ o ∈ l, o.plain = true)
    (hcount : ∀ n, w.requestIdGen ≤ n ∨ (∃ p, .accepted n p ∈ tr ++ w.out) →
      l.countP (Out.answers n) = if op.consumes n then 1 else 0) :
    BufferFrame tr w
      { w.withoutOperation i with out := (w.withoutOperation i).out ++ l } :=
  { BufferFrame.refl tr w with
    operations := fun _ h => .inl (List.mem_of_mem_eraseIdx h)
    out := ⟨l, rfl, hl, fun n hn => by
      rw [hcount n hn]
      exact inFlight_withoutOperation hop n⟩ }

/-- A continuation ends with answers: one, when it was that of a
consume. -/
theorem BufferFrame.endTask {i : Nat} {t : Task κ}
    (ht : w.tasks[i]? = some t) {l : List (Out κ)}
    (hl : ∀ o ∈ l, o.plain = true)
    (hcount : ∀ n,
      l.countP (Out.answers n) = if t.consumes n then 1 else 0) :
    BufferFrame tr w
      { w.withoutTask i with out := (w.withoutTask i).out ++ l } :=
  { BufferFrame.refl tr w with
    attempted := fun _ h => List.mem_of_mem_eraseIdx h
    out := ⟨l, rfl, hl, fun n _ => by
      rw [hcount n]
      exact inFlight_withoutTask ht n⟩ }

/-- A router of this worker was created. -/
theorem BufferFrame.routerCreated (hwf : SetupWF w) {i : Nat}
    {id : RouterId} (caps : Json)
    (hop : w.operations[i]? = some (.createRouter id)) :
    BufferFrame tr w ((w.withoutOperation i).onRouterCreated id caps) := by
  obtain ⟨-, hnew, -⟩ := hwf.of_createRouter hop
  refine { BufferFrame.refl tr w with
    producerOf := fun r p => ?_
    operations := fun _ h => .inl (List.mem_of_mem_eraseIdx h)
    attempted := fun caller h => ?_
    out := ⟨[], (List.append_nil _).symm, by simp, fun n _ => ?_⟩ }
  · -- the new router has no producer, and there was none
    show Option.bind ((w.routers.set id _).get? r) _ = _
    rw [JsMap.get?_set]
    split
    · rename_i heq
      subst heq
      rw [SfuWorker.producerOf, JsMap.get?_eq_none_iff.mpr hnew]
      rfl
    · rfl
  · rcases List.mem_append.mp h with h | h
    · exact h
    · cases List.mem_singleton.mp h
  · have := inFlight_withoutOperation hop n
    simpa [SfuWorker.onRouterCreated, SfuWorker.inFlight,
      SfuWorker.defer, Task.consumes, Operation.consumes] using this

/-- A transport of this worker was created. -/
theorem BufferFrame.transportCreated (hwf : SetupWF w) {i : Nat}
    {r : RouterId} {id : TransportId} {isProducer : Bool} (params : Json)
    (hop : w.operations[i]?
      = some (.createWebRtcTransport r id isProducer)) :
    BufferFrame tr w ((w.withoutOperation i).onTransportCreated r id
      isProducer params) := by
  obtain ⟨-, hnew, -⟩ := hwf.of_createTransport hop
  refine { BufferFrame.refl tr w with
    transports := fun t T hT => ?_
    producerOf := fun r p => ?_
    operations := fun _ h => .inl (List.mem_of_mem_eraseIdx h)
    out := ⟨[.transportAck id params], rfl, by simp [Out.plain],
      fun n _ => ?_⟩ }
  · refine (JsMap.get?_set_of_ne _ _ ?_).trans hT
    rintro rfl
    exact hnew (JsMap.mem_keys_of_get? hT)
  · show Option.bind ((w.routers.modify _ _).get? r) _ = _
    rw [JsMap.get?_modify]
    split
    · rename_i heq
      subst heq
      unfold SfuWorker.producerOf
      cases w.routers.get? r with
      | none => rfl
      | some R => cases isProducer <;> rfl
    · rfl
  · have := inFlight_withoutOperation hop n
    simpa [SfuWorker.onTransportCreated, SfuWorker.inFlight,
      SfuWorker.emit, Operation.consumes, Out.answers] using this

end Frame

/-! ## §4. Answers. -/

/-- What an exception thrown by a callback leaves behind. -/
def Out.silent : Out κ → Bool
  | .thrown _ | .unhandledRejection _ => true
  | _ => false

section Answers

variable {w : SfuWorker κ}

/-- Silent marks answer nobody. -/
theorem countP_answers_silent {l : List (Out κ)}
    (hl : ∀ o ∈ l, o.silent = true) (n : Nat) :
    l.countP (Out.answers n) = 0 := by
  rw [List.countP_eq_zero]
  intro o ho h
  have := hl o ho
  cases o <;> first | cases h | cases this

/-- The number of answers to request `n` in one nack. -/
theorem countP_answers_nack {caller : Caller κ} {error : UpdateError}
    {l : List (Out κ)} (hl : ∀ o ∈ l, o.silent = true) (n : Nat) :
    (.nack caller error :: l).countP (Out.answers n)
      = if caller.request = n then 1 else 0 := by
  rw [List.countP_cons, countP_answers_silent hl, Nat.zero_add]
  simp [Out.answers]

theorem plain_nack {caller : Caller κ} {error : UpdateError}
    {l : List (Out κ)} (he : error ≠ .producerDisappeared)
    (hl : ∀ o ∈ l, o.silent = true) :
    ∀ o ∈ .nack caller error :: l, o.plain = true := by
  intro o ho
  rcases List.mem_cons.mp ho with rfl | ho
  · cases error with
    | producerDisappeared => exact absurd rfl he
    | producingTransportNotFound | differentRouters | consumerNotFound |
      thrown => rfl
  · have := hl o ho
    cases o <;> first | rfl | cases this

variable [Callback κ]

/-- A synchronous nack, and what its callback may throw. -/
theorem nackSync_eq (w : SfuWorker κ) (caller : Caller κ)
    (error : UpdateError) : ∃ l, w.nackSync caller error
      = { w with out := w.out ++ .nack caller error :: l } ∧
      ∀ o ∈ l, o.silent = true := by
  unfold SfuWorker.nackSync
  dsimp only
  split
  · exact ⟨[], rfl, by simp⟩
  · rename_i e _
    exact ⟨[.thrown e], by simp [SfuWorker.emit], by simp [Out.silent]⟩

/-- A nack from a `catch`, and what its callback may throw. -/
theorem nackCatch_eq (w : SfuWorker κ) (caller : Caller κ)
    (error : UpdateError) : ∃ l, w.nackCatch caller error
      = { w with out := w.out ++ .nack caller error :: l } ∧
      ∀ o ∈ l, o.silent = true := by
  unfold SfuWorker.nackCatch
  dsimp only
  split
  · exact ⟨[], rfl, by simp⟩
  · rename_i e _
    exact ⟨[.unhandledRejection e], by simp [SfuWorker.emit],
      by simp [Out.silent]⟩

/-- What an ack does whose callback returns. -/
theorem ackThen_eq {caller : Caller κ} {resp : Option TransportUpdateAck}
    {k : SfuWorker κ → SfuWorker κ}
    (hret : Callback.ackThrows caller.cb = none) :
    w.ackThen caller resp k = k (w.emit (.ack caller resp)) := by
  unfold SfuWorker.ackThen
  dsimp only
  rw [hret]

end Answers

/-! ## §5. Updates. -/

section Updates

variable {tr : List (Out κ)} {w w' : SfuWorker κ}

/-- Starting an operation that is no consume. -/
theorem BufferFrame.startOther {cb : κ} {op : Operation κ}
    (hop : op.other = some w.requestIdGen)
    (hP : ∀ P kind rtp caller, op = .produce P kind rtp caller →
      w.transports.get? P.id = some P) :
    BufferFrame tr w ((w.begin cb).start op) :=
  { BufferFrame.refl tr w with
    requestIdGen := Nat.le_succ _
    operations := fun op' h => by
      rcases List.mem_append.mp h with h | h
      · exact .inl h
      · cases List.mem_singleton.mp h
        exact .inr (.inr ⟨hop, Nat.lt_succ_self _, hP⟩)
    out := ⟨[.handled ⟨w.requestIdGen, cb⟩], rfl, by simp [Out.plain],
      fun n _ => by
        have hc : op.consumes n = false := by
          cases op <;> first | rfl | cases hop
        simp [SfuWorker.inFlight, SfuWorker.start, SfuWorker.begin,
          SfuWorker.emit, hc, Out.answers]⟩ }

/-- An accepted request has a number that was issued. -/
theorem BufferInv.lt_of_accepted (hI : BufferInv tr w) {n : Nat}
    {p : TransportId} (h : .accepted n p ∈ tr ++ w.out) :
    n < w.requestIdGen := by
  by_contra hn
  exact (hI.fresh n (Nat.not_lt.mp hn)).2.2 p h

variable [Callback κ]

/-- Refusing an update keeps the invariant. -/
theorem BufferInv.refuse (hI : BufferInv tr w) (cb : κ)
    {error : UpdateError} (he : error ≠ .producerDisappeared) :
    BufferInv tr ((w.begin cb).nackSync ⟨w.requestIdGen, cb⟩ error) := by
  obtain ⟨l, heq, hl⟩ := nackSync_eq (w.begin cb) ⟨w.requestIdGen, cb⟩ error
  rw [heq]
  refine BufferFrame.inv ({ BufferFrame.refl tr w with
    requestIdGen := Nat.le_succ _
    operations := fun _ h => .inl h
    out := ⟨.handled ⟨w.requestIdGen, cb⟩ ::
      .nack ⟨w.requestIdGen, cb⟩ error :: l, ?_, ?_, fun n hn => ?_⟩ }) hI
  · simp [SfuWorker.begin, SfuWorker.emit]
  · intro o ho
    rcases List.mem_cons.mp ho with rfl | ho
    · rfl
    · exact plain_nack he hl o ho
  · have hne : w.requestIdGen ≠ n := by
      rcases hn with hn | ⟨p, hp⟩
      · exact Nat.ne_of_lt hn
      · exact Nat.ne_of_gt (hI.lt_of_accepted hp)
    rw [List.countP_cons_of_neg (by simp [Out.answers]),
      countP_answers_nack hl, if_neg hne]
    rfl

omit [Callback κ] in
/-- The request numbered `w.requestIdGen` is accepted for the producing
transport `p`: it is buffered, or it is under way with a producer of `p`. -/
structure Accepts (tr : List (Out κ)) (w w' : SfuWorker κ)
    (p : TransportId) : Prop where
  requestIdGen : w'.requestIdGen = w.requestIdGen + 1
  transports : w'.transports = w.transports
  tasks : w'.tasks = w.tasks
  producerOf : ∀ r q, w'.producerOf r q = w.producerOf r q
  operations : ∀ op ∈ w'.operations, op ∈ w.operations ∨ op.other = none
  waiting : ∀ q l e, w'.pendingConsumes.get? q = some l → e ∈ l →
    Waiting tr w q e ∨ q = p ∧ e.caller.request = w.requestIdGen ∧
      w.transports.get? p = some e.producingTransport ∧
      e.consumerTransport.router = e.producingTransport.router
  noProducer : ∀ q ∈ w'.pendingConsumes.keys, q ∈ w.pendingConsumes.keys ∨
    ∃ P, w.transports.get? q = some P ∧ w.producerOf P.router q = none
  old : ∀ q n, n ≠ w.requestIdGen →
    w'.buffered q n = w.buffered q n ∧ w'.inFlight n = w.inFlight n
  new : w'.buffered p w.requestIdGen + w'.inFlight w.requestIdGen = 1
  out : ∃ caller l, w'.out
      = w.out ++ .handled caller :: .accepted w.requestIdGen p :: l ∧
    ∀ o ∈ l, ∃ x, o = .mediaConsume w.requestIdGen x ∧
      .produced p x ∈ tr ++ w.out

omit [Callback κ] in
/-- A consume request is accepted: it is now in one place. -/
theorem BufferInv.accept (hI : BufferInv tr w) {p : TransportId}
    (h : Accepts tr w w' p) : BufferInv tr w' := by
  obtain ⟨caller, l, hl, hm⟩ := h.out
  have hout : tr ++ w'.out = tr ++ w.out ++
      .handled caller :: .accepted w.requestIdGen p :: l := by
    rw [hl, List.append_assoc]
  have hold : ∀ o : Out κ, o ∈ tr ++ w.out → o ∈ tr ++ w'.out := by
    intro o ho
    rw [hout]
    exact List.mem_append_left _ ho
  -- what the stretch adds to the trace
  have hcases : ∀ o : Out κ, o ∈ tr ++ w'.out → o ∈ tr ++ w.out ∨
      o = .handled caller ∨ o = .accepted w.requestIdGen p ∨
      ∃ x, o = .mediaConsume w.requestIdGen x ∧
        .produced p x ∈ tr ++ w.out := by
    intro o ho
    rw [hout] at ho
    simp only [List.mem_append, List.mem_cons] at ho ⊢
    rcases ho with ho | ho | ho | ho
    · exact .inl ho
    · exact .inr (.inl ho)
    · exact .inr (.inr (.inl ho))
    · exact .inr (.inr (.inr (by simpa using hm o ho)))
  -- the new request is the only one accepted in addition
  have hacc : ∀ n q, .accepted n q ∈ tr ++ w'.out →
      .accepted n q ∈ tr ++ w.out ∨ n = w.requestIdGen ∧ q = p := by
    intro n q hq
    rcases hcases _ hq with hq | hq | hq | ⟨x, hq, -⟩
    · exact .inl hq
    · cases hq
    · cases hq
      exact .inr ⟨rfl, rfl⟩
    · cases hq
  have hans : ∀ n, (tr ++ w'.out).countP (Out.answers n)
      = (tr ++ w.out).countP (Out.answers n) := by
    intro n
    rw [hout, List.countP_append, Nat.add_eq_left, List.countP_eq_zero]
    intro o ho ha
    simp only [List.mem_cons] at ho
    rcases ho with rfl | rfl | ho
    · cases ha
    · cases ha
    · obtain ⟨x, rfl, -⟩ := hm o ho
      cases ha
  have haccept : .accepted w.requestIdGen p ∈ tr ++ w'.out := by
    rw [hout]
    simp
  -- clause by clause: the new request, or one from before
  constructor
  case fresh =>
    intro n hn
    rw [h.requestIdGen] at hn
    obtain ⟨hf, ha, hno⟩ := hI.fresh n (Nat.le_of_succ_le hn)
    have hne : n ≠ w.requestIdGen := Nat.ne_of_gt hn
    refine ⟨(h.old p n hne).2.trans hf, (hans n).trans ha, fun q hq => ?_⟩
    rcases hacc n q hq with hq | ⟨heq, -⟩
    · exact hno q hq
    · exact hne heq
  -- it waits in one place, and is not answered yet
  case place =>
    intro n q hq
    rw [hans]
    rcases hacc n q hq with hq | ⟨rfl, rfl⟩
    · obtain ⟨hb, hf⟩ := h.old q n (Nat.ne_of_lt (hI.lt_of_accepted hq))
      rw [hb, hf]
      exact hI.place n q hq
    · rw [(hI.fresh _ (Nat.le_refl _)).2.1, h.new]
  case unique =>
    intro n q q' hq hq'
    rcases hacc n q hq with hq | ⟨rfl, rfl⟩
    · rcases hacc n q' hq' with hq' | ⟨rfl, rfl⟩
      · exact hI.unique n q q' hq hq'
      · exact absurd (hI.lt_of_accepted hq) (Nat.lt_irrefl _)
    · rcases hacc _ q' hq' with hq' | ⟨-, rfl⟩
      · exact absurd (hI.lt_of_accepted hq') (Nat.lt_irrefl _)
      · rfl
  -- a consume that waits is this one, or waited before
  case waiting =>
    intro q l' e hl' he
    rcases h.waiting q l' e hl' he with hw | ⟨rfl, hn, hP, hr⟩
    · exact ⟨hold _ hw.accepted, h.transports ▸ hw.producing, hw.router⟩
    · exact ⟨hn ▸ haccept, h.transports ▸ hP, hr⟩
  case noProducer =>
    intro q hq
    rw [h.transports]
    simp only [h.producerOf]
    rcases h.noProducer q hq with hq | hq
    · exact hI.noProducer q hq
    · exact hq
  case producing =>
    intro P kind rtp caller' hop
    rw [h.transports]
    rcases h.operations _ hop with hop | hop
    · exact hI.producing P kind rtp caller' hop
    · cases hop
  case others =>
    intro op hop n hn
    rw [h.requestIdGen]
    rcases h.operations _ hop with hop | hop
    · obtain ⟨hlt, hno⟩ := hI.others op hop n hn
      refine ⟨Nat.lt_succ_of_lt hlt, fun q hq => ?_⟩
      rcases hacc n q hq with hq | ⟨heq, -⟩
      · exact hno q hq
      · exact Nat.ne_of_lt hlt heq
    · cases hop.symm.trans hn
  case produced =>
    intro r q x hx
    rw [h.producerOf] at hx
    exact hold _ (hI.produced r q x hx)
  -- a consumer is asked for only where its producer was created
  case source =>
    intro n x hx
    rcases hcases _ hx with hx | hx | hx | ⟨x', hx, hp⟩
    · obtain ⟨q, ha, hp⟩ := hI.source n x hx
      exact ⟨q, hold _ ha, hold _ hp⟩
    · cases hx
    · cases hx
    · cases hx
      exact ⟨p, haccept, hold _ hp⟩
  case notDisappeared =>
    intro c hc
    rcases hcases _ hc with hc | hc | hc | ⟨x', hc, -⟩
    · exact hI.notDisappeared c hc
    · cases hc
    · cases hc
    · cases hc
  case attempted =>
    rw [h.tasks]
    exact hI.attempted

omit [Callback κ] in
/-- Recording that a transport consumes from another changes no producer. -/
theorem producerOf_modify (w : SfuWorker κ) (r : RouterId)
    {f : Router → Router}
    (hf : ∀ R, (f R).webRtcProducers = R.webRtcProducers) (r' : RouterId)
    (p : TransportId) :
    SfuWorker.producerOf { w with routers := w.routers.modify r f } r' p
      = w.producerOf r' p := by
  simp only [SfuWorker.producerOf, JsMap.get?_modify]
  split
  · rename_i h
    subst h
    cases w.routers.get? r' with
    | none => rfl
    | some R => exact congrArg (JsMap.get? · p) (hf R)
  · rfl

omit [Callback κ] in
/-- Only accepted requests are buffered. -/
theorem BufferInv.buffered_eq_zero (hI : BufferInv tr w) {p : TransportId}
    {n : Nat} (h : .accepted n p ∉ tr ++ w.out) : w.buffered p n = 0 := by
  rw [SfuWorker.buffered]
  cases hl : w.pendingConsumes.get? p with
  | none => rfl
  | some l =>
    rw [Option.getD_some, List.countP_eq_zero]
    intro e he hc
    obtain rfl := of_decide_eq_true hc
    exact h (hI.waiting p l e hl he).accepted

omit [Callback κ] in
/-- Buffering a request whose producer does not exist. -/
theorem BufferInv.buffer (hI : BufferInv tr w) {T P : WebRtcTransport}
    {p : TransportId} (caps : Json) (cb : κ)
    (hP : w.transports.get? p = some P) (hr : P.router = T.router)
    (hn : w.producerOf T.router p = none) {routers : JsMap RouterId Router}
    (hrouters : ∀ r q,
      SfuWorker.producerOf { w with routers } r q = w.producerOf r q) :
    BufferInv tr { w.begin cb with
      routers
      out := (w.begin cb).out ++ [.accepted w.requestIdGen p]
      pendingConsumes := w.pendingConsumes.set p
        (((w.pendingConsumes.get? p).getD []) ++
          [⟨T, P, caps, ⟨w.requestIdGen, cb⟩⟩]) } := by
  -- the new entry is counted once, under its own number
  have hbuf : ∀ q n, SfuWorker.buffered
      { w.begin cb with
        routers
        out := (w.begin cb).out ++ [.accepted w.requestIdGen p]
        pendingConsumes := w.pendingConsumes.set p
          (((w.pendingConsumes.get? p).getD []) ++
            [⟨T, P, caps, ⟨w.requestIdGen, cb⟩⟩]) } q n
      = w.buffered q n +
        if q = p ∧ n = w.requestIdGen then 1 else 0 := by
    intro q n
    simp only [SfuWorker.buffered, JsMap.get?_set]
    by_cases hq : q = p
    · subst hq
      rw [if_pos rfl, Option.getD_some, List.countP_append,
        List.countP_singleton]
      simp [eq_comm]
    · simp [hq]
  refine hI.accept (p := p) ⟨rfl, rfl, rfl, hrouters, fun _ h => .inl h,
    fun q l e hl he => ?_, fun q hq => ?_, fun q n hne => ?_, ?_,
    ⟨⟨w.requestIdGen, cb⟩, [], ?_, by simp⟩⟩
  -- it waits behind the others for the same producer
  · simp only [JsMap.get?_set] at hl
    split at hl
    · rename_i hq
      subst hq
      cases hl
      rcases List.mem_append.mp he with he | he
      · refine .inl (hI.waiting q ((w.pendingConsumes.get? q).getD []) e ?_
          he)
        cases hl : w.pendingConsumes.get? q with
        | none =>
          rw [hl] at he
          cases he
        | some l => rfl
      · cases List.mem_singleton.mp he
        exact .inr ⟨rfl, rfl, hP, hr.symm⟩
    · exact .inl (hI.waiting q l e hl he)
  -- there is no producer yet for what it waits for
  · rcases JsMap.mem_keys_set.mp hq with rfl | hq
    · exact .inr ⟨P, hP, by rw [hr]; exact hn⟩
    · exact .inl hq
  · refine ⟨(hbuf q n).trans ?_, rfl⟩
    rw [if_neg fun h => hne h.2, Nat.add_zero]
  · rw [hbuf, hI.buffered_eq_zero ((hI.fresh _ (Nat.le_refl _)).2.2 p),
      if_pos ⟨rfl, rfl⟩, Nat.zero_add]
    exact congrArg (1 + ·) (hI.fresh _ (Nat.le_refl _)).1
  · simp [SfuWorker.begin, SfuWorker.emit]

omit [Callback κ] in
/-- Consuming at once from a producer that exists. -/
theorem BufferInv.consumeNow (hI : BufferInv tr w) {T P : WebRtcTransport}
    {p : TransportId} {x : MediaProducer} (caps : Json) (cb : κ)
    (hn : w.producerOf T.router p = some x) (hp : P.id = p)
    {routers : JsMap RouterId Router}
    (hrouters : ∀ r q,
      SfuWorker.producerOf { w with routers } r q = w.producerOf r q) :
    BufferInv tr (SfuWorker.consumeAndAck { w.begin cb with
      routers
      out := (w.begin cb).out ++ [.accepted w.requestIdGen p] }
      ⟨T, P, caps, ⟨w.requestIdGen, cb⟩⟩) := by
  subst hp
  have hx : SfuWorker.producerOf { w.begin cb with
      routers
      out := (w.begin cb).out ++ [.accepted w.requestIdGen P.id] }
      T.router P.id = some x := (hrouters _ _).trans hn
  unfold SfuWorker.consumeAndAck
  rw [hx]
  refine hI.accept (p := P.id) ⟨rfl, rfl, rfl, hrouters, fun op h => ?_,
    fun q l e hl he => .inl (hI.waiting q l e hl he),
    fun q hq => .inl hq, fun q n hne => ⟨rfl, ?_⟩, ?_,
    ⟨⟨w.requestIdGen, cb⟩, [.mediaConsume w.requestIdGen x.id], ?_, ?_⟩⟩
  · rcases List.mem_append.mp h with h | h
    · exact .inl h
    · cases List.mem_singleton.mp h
      exact .inr rfl
  · simp [SfuWorker.inFlight, SfuWorker.start, SfuWorker.begin,
      SfuWorker.emit, Operation.consumes, Ne.symm hne]
  · have hb := hI.buffered_eq_zero ((hI.fresh _ (Nat.le_refl _)).2.2 P.id)
    have hf := (hI.fresh _ (Nat.le_refl _)).1
    simp only [SfuWorker.buffered, SfuWorker.inFlight, SfuWorker.start,
      SfuWorker.begin, SfuWorker.emit, List.countP_append,
      List.countP_singleton, Operation.consumes, beq_self_eq_true,
      if_true] at hb hf ⊢
    omega
  · simp [SfuWorker.begin, SfuWorker.emit, SfuWorker.start]
  · intro o ho
    rw [List.mem_singleton.mp ho]
    exact ⟨x.id, rfl, hI.produced _ _ _ hn⟩

/-- The consume branch of a transport update. -/
theorem BufferInv.onConsume (hI : BufferInv tr w) (hwf : SetupWF w)
    (T : WebRtcTransport) (caps : Json) (p : TransportId) (cb : κ) :
    BufferInv tr
      ((w.begin cb).onConsume T caps p ⟨w.requestIdGen, cb⟩) := by
  unfold SfuWorker.onConsume
  split
  · exact hI.refuse cb (by simp)
  · rename_i P hP
    split
    · exact hI.refuse cb (by simp)
    · rename_i hr
      rw [ne_eq, not_not] at hr
      have hrouters := producerOf_modify w T.router
        (f := fun r => { r with
          producerToConsumersSet :=
            r.producerToConsumersSet.addTo p T.id }) fun _ => rfl
      dsimp only
      split
      · rename_i hn
        exact hI.buffer caps cb hP hr ((hrouters _ _).symm.trans hn) hrouters
      · rename_i x hn
        exact hI.consumeNow caps cb ((hrouters _ _).symm.trans hn)
          (hwf.transportId p P hP) hrouters

/-- **A transport update keeps the invariant.** -/
theorem BufferInv.onTransportUpdate (hI : BufferInv tr w) (hwf : SetupWF w)
    {id : TransportId} {T : WebRtcTransport}
    (hT : w.transports.get? id = some T) (update : TransportUpdateC)
    (cb : κ) : BufferInv tr (w.onTransportUpdate id update cb) := by
  unfold SfuWorker.onTransportUpdate
  rw [hT]
  have hid := hwf.transportId id T hT
  cases update with
  | transportConnectEvent dtls =>
      exact (BufferFrame.startOther rfl fun _ _ _ _ h => by cases h).inv hI
  | transportProducerProduceEvent kind rtp =>
      refine (BufferFrame.startOther rfl fun _ _ _ _ h => ?_).inv hI
      cases h
      rw [hid]
      exact hT
  | transportConsumerConsumeEvent caps p => exact hI.onConsume hwf T caps p cb
  | transportConsumerResumeEvent =>
      dsimp only
      split
      · exact hI.refuse cb (by simp)
      · exact (BufferFrame.startOther rfl fun _ _ _ _ h => by cases h).inv hI

end Updates

/-! ## §6. Media promises. -/

section Settled

variable {tr : List (Out κ)} {w w' : SfuWorker κ} {i : Nat}

/-- What `other` answers is no consume request. -/
theorem consumes_of_other {op : Operation κ} {n : Nat}
    (h : op.other = some n) (m : Nat) : op.consumes m = false := by
  cases op with
  | consume => cases h
  | createRouter | createWebRtcTransport | connect | produce | resume => rfl

variable [Callback κ]

omit [Callback κ] in
/-- The caller of such an operation waits for no consume request. -/
theorem BufferInv.caller_ne (hI : BufferInv tr w) {op : Operation κ}
    {m : Nat} (hop : w.operations[i]? = some op) (ho : op.other = some m)
    {n : Nat}
    (hn : w.requestIdGen ≤ n ∨ ∃ p, .accepted n p ∈ tr ++ w.out) :
    m ≠ n := by
  obtain ⟨hlt, hno⟩ := hI.others op (List.mem_of_getElem? hop) _ ho
  rintro rfl
  rcases hn with hn | ⟨p, hp⟩
  · exact absurd (Nat.lt_of_lt_of_le hlt hn) (Nat.lt_irrefl _)
  · exact hno p hp

/-- An operation that is no consume is rejected. -/
theorem BufferInv.rejectOther (hI : BufferInv tr w) {op : Operation κ}
    {caller : Caller κ} (hop : w.operations[i]? = some op)
    (ho : op.other = some caller.request) (message : String) :
    BufferInv tr
      ((w.withoutOperation i).nackCatch caller (.thrown message)) := by
  obtain ⟨l, heq, hl⟩ := nackCatch_eq (w.withoutOperation i) caller
    (.thrown message)
  rw [heq]
  refine BufferFrame.inv (.endOperation hop (plain_nack (by simp) hl)
    fun n hn => ?_) hI
  rw [countP_answers_nack hl, if_neg (hI.caller_ne hop ho hn),
    consumes_of_other ho]
  rfl

/-- A consume is rejected: its request is answered. -/
theorem BufferInv.rejectConsume (hI : BufferInv tr w) {T : WebRtcTransport}
    {x : String} {caps : Json} {paused : Bool} {caller : Caller κ}
    (hop : w.operations[i]? = some (.consume T x caps paused caller))
    (message : String) :
    BufferInv tr
      ((w.withoutOperation i).nackCatch caller (.thrown message)) := by
  obtain ⟨l, heq, hl⟩ := nackCatch_eq (w.withoutOperation i) caller
    (.thrown message)
  rw [heq]
  refine BufferFrame.inv (.endOperation hop (plain_nack (by simp) hl)
    fun n _ => ?_) hI
  rw [countP_answers_nack hl]
  simp [Operation.consumes]

/-- An operation without a result is fulfilled. -/
theorem BufferInv.ackOther (hI : BufferInv tr w) {op : Operation κ}
    {caller : Caller κ} (hret : Callback.ackThrows caller.cb = none)
    (hop : w.operations[i]? = some op)
    (ho : op.other = some caller.request) :
    BufferInv tr ((w.withoutOperation i).ackThen caller none id) := by
  rw [ackThen_eq hret]
  refine BufferFrame.inv (.endOperation (l := [.ack caller none]) hop
    (by simp [Out.plain]) fun n hn => ?_) hI
  rw [consumes_of_other ho]
  simp [Out.answers, hI.caller_ne hop ho hn]

omit [Callback κ] in
/-- A consume is fulfilled: its request stays under way. -/
theorem BufferInv.consumed (hI : BufferInv tr w) {T : WebRtcTransport}
    {x : String} {caps : Json} {paused : Bool} {caller : Caller κ}
    (hop : w.operations[i]? = some (.consume T x caps paused caller))
    (consumer : MediaConsumer) :
    BufferInv tr ((w.withoutOperation i).onConsumed T caller consumer) := by
  refine BufferFrame.inv { BufferFrame.refl tr w with
    producerOf := producerOf_modify w T.router fun _ => rfl
    operations := fun _ h => .inl (List.mem_of_mem_eraseIdx h)
    attempted := fun c h => ?_
    out := ⟨[], (List.append_nil _).symm, by simp, fun n _ => ?_⟩ } hI
  · rcases List.mem_append.mp h with h | h
    · exact h
    · cases List.mem_singleton.mp h
  · rw [← inFlight_withoutOperation hop n]
    simp only [SfuWorker.inFlight, SfuWorker.withoutOperation,
      SfuWorker.onConsumed, SfuWorker.defer, List.countP_append,
      List.countP_singleton, List.countP_nil, Operation.consumes,
      Task.consumes, Nat.add_assoc, Nat.add_zero]
    rfl

/-- The end of a consume: its request is answered. -/
theorem BufferInv.attemptedAck (hI : BufferInv tr w) {caller : Caller κ}
    {consumer : Option MediaConsumer}
    (hret : Callback.ackThrows caller.cb = none)
    (ht : w.tasks[i]? = some (.attempted caller consumer)) :
    BufferInv tr (SfuWorker.resumeTask (w.withoutTask i)
      (.attempted caller consumer)) := by
  cases consumer with
  | none => exact absurd (List.mem_of_getElem? ht) (hI.attempted caller)
  | some consumer =>
    show BufferInv tr ((w.withoutTask i).ackThen caller _ id)
    rw [ackThen_eq hret]
    refine BufferFrame.inv (.endTask (l := [.ack caller _]) ht
      (by simp [Out.plain]) fun n => ?_) hI
    simp [Out.answers, Task.consumes]

/-! ## §7. A new producer. -/

/-- The media operation that consumes for a buffered request. -/
def PendingConsume.operation (x : MediaProducer) (e : PendingConsume κ) :
    Operation κ :=
  .consume e.consumerTransport x.id e.rtpCapabilities true e.caller

omit [Callback κ] in
/-- Flushing requests that find their producer. -/
theorem foldl_consumeAndAck_eq {x : MediaProducer} :
    ∀ (l : List (PendingConsume κ)) (w : SfuWorker κ),
      (∀ e ∈ l, w.producerOf e.consumerTransport.router
        e.producingTransport.id = some x) →
      l.foldl SfuWorker.consumeAndAck w = { w with
        operations := w.operations ++ l.map (PendingConsume.operation x)
        out := w.out ++
          l.map fun e => .mediaConsume e.caller.request x.id }
  | [], w, _ => by simp
  | e :: l, w, h => by
      have he : w.consumeAndAck e = { w with
          operations := w.operations ++ [e.operation x]
          out := w.out ++ [.mediaConsume e.caller.request x.id] } := by
        unfold SfuWorker.consumeAndAck
        rw [h e List.mem_cons_self]
        rfl
      have hrest : ∀ e' ∈ l, (w.consumeAndAck e).producerOf
          e'.consumerTransport.router e'.producingTransport.id = some x := by
        rw [he]
        exact fun e' h' => h e' (List.mem_cons_of_mem _ h')
      rw [List.foldl_cons, foldl_consumeAndAck_eq l _ hrest, he]
      simp

/-- The requests that wait for a producer on transport `p`. -/
def SfuWorker.waitingOn (w : SfuWorker κ) (p : TransportId) :
    List (PendingConsume κ) :=
  (w.pendingConsumes.get? p).getD []

omit [Callback κ] in
/-- All that waited for a producer goes on at once, in order. -/
theorem flush_eq {x : MediaProducer} {p : TransportId}
    (h : ∀ e ∈ w.waitingOn p, w.producerOf e.consumerTransport.router
      e.producingTransport.id = some x) :
    w.flush p = { w with
      pendingConsumes := w.pendingConsumes.delete p
      operations := w.operations ++
        (w.waitingOn p).map (PendingConsume.operation x)
      out := w.out ++ (w.waitingOn p).map fun e =>
        .mediaConsume e.caller.request x.id } := by
  unfold SfuWorker.flush
  cases hl : w.pendingConsumes.get? p with
  | none =>
    rw [JsMap.delete_eq_self hl, SfuWorker.waitingOn, hl]
    simp
  | some l =>
    have hw : w.waitingOn p = l := by rw [SfuWorker.waitingOn, hl]; rfl
    rw [hw] at h ⊢
    exact foldl_consumeAndAck_eq l _ h

/-- What a new producer `x` on `P` changes, table by table. -/
structure ProducedSpec (w w' : SfuWorker κ) (P : WebRtcTransport)
    (x : MediaProducer) (caller : Caller κ) : Prop where
  requestIdGen : w'.requestIdGen = w.requestIdGen
  transports : w'.transports = w.transports
  tasks : w'.tasks = w.tasks
  pendingConsumes : w'.pendingConsumes = w.pendingConsumes.delete P.id
  producerOf : ∀ r q, w'.producerOf r q
    = if r = P.router ∧ q = P.id then some x else w.producerOf r q
  operations : ∀ op ∈ w'.operations, op ∈ w.operations ∨
    ∃ e, op = PendingConsume.operation x e
  inFlight : ∀ n, w'.inFlight n = w.inFlight n + w.buffered P.id n
  out : w'.out = w.out ++ (.produced P.id x.id ::
    .ack caller (some ⟨x.id, none, none, none⟩) ::
    (w.waitingOn P.id).map fun e => .mediaConsume e.caller.request x.id)

omit [Callback κ] in
/-- What waits under a transport waits for its producer. -/
theorem BufferInv.waitingOn (hI : BufferInv tr w) {p : TransportId} :
    ∀ e ∈ w.waitingOn p, Waiting tr w p e := by
  intro e he
  unfold SfuWorker.waitingOn at he
  cases hl : w.pendingConsumes.get? p with
  | none =>
    rw [hl] at he
    cases he
  | some l =>
    rw [hl] at he
    exact hI.waiting p l e hl he

/-- The `.then` body of `produce`: every request that waited finds the new
producer. -/
theorem onProduced_spec (hI : BufferInv tr w) (hwf : SetupWF w)
    {P : WebRtcTransport} {kind rtp : Json} {caller : Caller κ}
    (hret : Callback.ackThrows caller.cb = none)
    (hop : w.operations[i]? = some (.produce P kind rtp caller))
    (x : MediaProducer) :
    ProducedSpec w ((w.withoutOperation i).onProduced P caller x) P x
      caller := by
  have hP := hI.producing P kind rtp caller (List.mem_of_getElem? hop)
  have hR := hwf.transportRouter P.id P hP
  unfold SfuWorker.onProduced
  dsimp only
  rw [ackThen_eq hret]
  generalize hd : SfuWorker.emit (SfuWorker.emit _ _) _ = d
  -- the producer is registered under its transport
  have hprod : ∀ r q, d.producerOf r q
      = if r = P.router ∧ q = P.id then some x else w.producerOf r q := by
    intro r q
    subst hd
    show Option.bind ((w.routers.modify P.router _).get? r) _ = _
    rw [JsMap.get?_modify]
    by_cases hr : r = P.router
    · subst hr
      obtain ⟨R, hR⟩ := Option.isSome_iff_exists.mp (JsMap.mem_keys.mp hR)
      rw [if_pos rfl, hR, Option.map_some, Option.bind_some, JsMap.get?_set]
      simp [SfuWorker.producerOf, hR]
    · simp [hr, SfuWorker.producerOf]
  have hpending : d.pendingConsumes = w.pendingConsumes := by subst hd; rfl
  have hwd : d.waitingOn P.id = w.waitingOn P.id := by
    rw [SfuWorker.waitingOn, hpending]
    rfl
  -- so every consume that waits for it finds it
  have hfound : ∀ e ∈ d.waitingOn P.id, d.producerOf
      e.consumerTransport.router e.producingTransport.id = some x := by
    intro e he
    have hw := hI.waitingOn e (hwd ▸ he)
    have heq : e.producingTransport = P :=
      Option.some.inj (hw.producing.symm.trans hP)
    rw [hprod, hw.router, heq, if_pos ⟨rfl, rfl⟩]
  -- the buffer is flushed, in order
  rw [flush_eq hfound, hwd]
  refine ⟨by subst hd; rfl, by subst hd; rfl, by subst hd; rfl, ?_, hprod,
    fun op h => ?_, fun n => ?_, ?_⟩
  · exact congrArg (JsMap.delete · P.id) hpending
  · rcases List.mem_append.mp h with h | h
    · subst hd
      exact .inl (List.mem_of_mem_eraseIdx h)
    -- each entry becomes an operation
    · obtain ⟨e, -, rfl⟩ := List.mem_map.mp h
      exact .inr ⟨e, rfl⟩
  · have := inFlight_withoutOperation hop n
    subst hd
    simp only [SfuWorker.inFlight, SfuWorker.withoutOperation,
      SfuWorker.emit, List.countP_append, List.countP_map,
      Operation.consumes, Bool.false_eq_true, if_false, Nat.add_zero,
      SfuWorker.buffered] at this ⊢
    rw [← this, Nat.add_right_comm]
    rfl
  · subst hd
    simp [SfuWorker.emit, SfuWorker.withoutOperation]

omit [Callback κ] in
/-- **A producer is created**: what waited for it is under way. -/
theorem BufferInv.onProduced (hI : BufferInv tr w) {P : WebRtcTransport}
    {x : MediaProducer} {op : Operation κ} {caller : Caller κ}
    (hop : w.operations[i]? = some op) (ho : op.other = some caller.request)
    (h : ProducedSpec w w' P x caller) : BufferInv tr w' := by
  have hbuf : ∀ q n, w'.buffered q n
      = if q = P.id then 0 else w.buffered q n := by
    intro q n
    rw [SfuWorker.buffered, h.pendingConsumes, JsMap.get?_delete]
    split <;> rfl
  have hout : tr ++ w'.out = tr ++ w.out ++ (.produced P.id x.id ::
      .ack caller (some ⟨x.id, none, none, none⟩) ::
      (w.waitingOn P.id).map fun e =>
        .mediaConsume e.caller.request x.id) := by
    rw [h.out, List.append_assoc]
  have hnew : .produced P.id x.id ∈ tr ++ w'.out := by
    rw [hout]
    exact List.mem_append_right _ List.mem_cons_self
  have hold : ∀ o : Out κ, o ∈ tr ++ w.out → o ∈ tr ++ w'.out := by
    intro o ho
    rw [hout]
    exact List.mem_append_left _ ho
  have hcases : ∀ o : Out κ, o ∈ tr ++ w'.out → o ∈ tr ++ w.out ∨
      o = .produced P.id x.id ∨ (∃ resp, o = .ack caller resp) ∨
      ∃ e ∈ w.waitingOn P.id, o = .mediaConsume e.caller.request x.id := by
    intro o ho
    rw [hout] at ho
    simp only [List.mem_append, List.mem_cons, List.mem_map] at ho ⊢
    rcases ho with ho | ho | ho | ⟨e, he, ho⟩
    · exact .inl ho
    · exact .inr (.inl ho)
    · exact .inr (.inr (.inl ⟨_, ho⟩))
    · exact .inr (.inr (.inr ⟨e, he, ho.symm⟩))
  have hacc : ∀ n q, .accepted n q ∈ tr ++ w'.out →
      .accepted n q ∈ tr ++ w.out := by
    intro n q hq
    rcases hcases _ hq with hq | hq | ⟨_, hq⟩ | ⟨e, -, hq⟩
    · exact hq
    · cases hq
    · cases hq
    · cases hq
  -- the ack of the produce request is no answer to a consume request
  have hans : ∀ n, (w.requestIdGen ≤ n ∨ ∃ p, .accepted n p ∈ tr ++ w.out) →
      (tr ++ w'.out).countP (Out.answers n)
        = (tr ++ w.out).countP (Out.answers n) := by
    intro n hn
    have hne := hI.caller_ne hop ho hn
    rw [hout, List.countP_append, Nat.add_eq_left, List.countP_eq_zero]
    intro o ho ha
    simp only [List.mem_cons, List.mem_map] at ho
    rcases ho with rfl | rfl | ⟨e, -, rfl⟩
    · cases ha
    · exact hne (by simpa [Out.answers] using ha)
    · cases ha
  constructor
  case fresh =>
    intro n hn
    rw [h.requestIdGen] at hn
    obtain ⟨hf, ha, hno⟩ := hI.fresh n hn
    rw [h.inFlight, hf, hI.buffered_eq_zero (hno P.id), hans n (.inl hn)]
    exact ⟨rfl, ha, fun q hq => hno q (hacc n q hq)⟩
  case place =>
    intro n q hq
    have hq := hacc n q hq
    have hplace := hI.place n q hq
    rw [hans n (.inr ⟨q, hq⟩), hbuf, h.inFlight]
    split
    · rename_i heq
      rw [heq] at hplace
      omega
    · rename_i hne
      rw [hI.buffered_eq_zero fun h => hne (hI.unique n q P.id hq h)]
      omega
  case unique =>
    exact fun n q q' hq hq' => hI.unique n q q' (hacc n q hq) (hacc n q' hq')
  case waiting =>
    intro q l e hl he
    rw [h.pendingConsumes] at hl
    have hw := hI.waiting q l e (JsMap.get?_of_get?_delete hl) he
    exact ⟨hold _ hw.accepted, h.transports ▸ hw.producing, hw.router⟩
  case noProducer =>
    intro q hq
    rw [h.pendingConsumes] at hq
    obtain ⟨hne, hq⟩ := JsMap.mem_keys_delete.mp hq
    obtain ⟨Q, hQ, hn⟩ := hI.noProducer q hq
    refine ⟨Q, h.transports ▸ hQ, ?_⟩
    rw [h.producerOf, if_neg fun h => hne h.2, hn]
  case producing =>
    intro Q kind' rtp' caller' hQ
    rw [h.transports]
    rcases h.operations _ hQ with hQ | ⟨e, hQ⟩
    · exact hI.producing Q kind' rtp' caller' hQ
    · cases hQ
  case others =>
    intro op' hmem n hn
    rw [h.requestIdGen]
    rcases h.operations _ hmem with hmem | ⟨e, rfl⟩
    · obtain ⟨hlt, hno⟩ := hI.others op' hmem n hn
      exact ⟨hlt, fun q hq => hno q (hacc n q hq)⟩
    · cases hn
  case produced =>
    intro r q y hy
    rw [h.producerOf] at hy
    split at hy
    · rename_i heq
      cases hy
      exact heq.2 ▸ hnew
    · exact hold _ (hI.produced r q y hy)
  case source =>
    intro n y hy
    rcases hcases _ hy with hy | hy | ⟨_, hy⟩ | ⟨e, he, hy⟩
    · obtain ⟨q, ha, hp⟩ := hI.source n y hy
      exact ⟨q, hold _ ha, hold _ hp⟩
    · cases hy
    · cases hy
    · cases hy
      exact ⟨P.id, hold _ (hI.waitingOn e he).accepted, hnew⟩
  case notDisappeared =>
    intro c hc
    rcases hcases _ hc with hc | hc | ⟨_, hc⟩ | ⟨e, -, hc⟩
    · exact hI.notDisappeared c hc
    · cases hc
    · cases hc
    · cases hc
  case attempted =>
    rw [h.tasks]
    exact hI.attempted

end Settled

/-! ## §8. Every run. -/

section Runs

variable [Callback κ] {tr : List (Out κ)} {w w' : SfuWorker κ}

/-- The settled promise of an update operation keeps the invariant. -/
theorem BufferInv.settled (hI : BufferInv tr w) (hwf : SetupWF w)
    (hret : ∀ cb : κ, Callback.ackThrows cb = none) {i : Nat}
    {op : Operation κ} (hop : w.operations[i]? = some op)
    (hs : op.isSetup = false)
    (h : (∃ value, SfuWorker.onFulfilled (w.withoutOperation i) op value
        = some w') ∨
      ∃ message, w' = SfuWorker.onRejected (w.withoutOperation i) message
        op) : BufferInv tr w' := by
  rcases h with ⟨value, h⟩ | ⟨message, rfl⟩
  · cases op with
    | createRouter | createWebRtcTransport => cases hs
    | connect | resume =>
        cases value <;> cases h
        exact hI.ackOther (hret _) hop rfl
    | produce P kind rtp caller =>
        cases value <;> cases h
        exact hI.onProduced hop rfl
          (onProduced_spec hI hwf (hret _) hop _)
    | consume T x caps paused caller =>
        cases value <;> cases h
        exact hI.consumed hop _
  · cases op with
    | createRouter | createWebRtcTransport => cases hs
    | connect | produce | resume => exact hI.rejectOther hop rfl message
    | consume => exact hI.rejectConsume hop message

/-- **Every stretch keeps the invariant.** -/
theorem BufferInv.step (hI : BufferInv tr w) (hwf : SetupWF w)
    (hret : ∀ cb : κ, Callback.ackThrows cb = none) {a : Action κ}
    (h : Stretch w a w') : BufferInv tr w' := by
  cases h with
  | skip => exact hI
  | update ha hT => exact hI.onTransportUpdate hwf hT _ _
  | settled hop hs h => exact hI.settled hwf hret hop hs h
  | attempted ht => exact hI.attemptedAck (hret _) ht
  | createRouter | createTransport =>
      exact (BufferFrame.startSetup rfl).inv hI
  | routerCreated hop => exact (BufferFrame.routerCreated hwf _ hop).inv hI
  | transportCreated hop =>
      exact (BufferFrame.transportCreated hwf _ hop).inv hI
  | @routerFailed i id message hop =>
      exact (BufferFrame.endOperation (l := [.routerNack id message]) hop
        (by simp [Out.plain]) fun _ _ => rfl).inv hI
  | @transportFailed i r id isProducer message hop =>
      exact (BufferFrame.endOperation (l := [.transportNack id message]) hop
        (by simp [Out.plain]) fun _ _ => rfl).inv hI
  | @routerAcked i id caps ht =>
      exact (BufferFrame.endTask (l := [.routerAck id caps]) ht
        (by simp [Out.plain]) fun _ => rfl).inv hI

omit [Callback κ] in
/-- A new worker has accepted nothing. -/
theorem bufferInv_initial (workerId : WorkerId) :
    BufferInv [] (SfuWorker.initial workerId : SfuWorker κ) where
  fresh _ _ := ⟨rfl, rfl, fun _ h => by cases h⟩
  place _ _ h := by cases h
  unique _ _ _ h := by cases h
  waiting _ _ _ h := by cases h
  noProducer _ h := by cases h
  producing _ _ _ _ h := by cases h
  others _ h := by cases h
  produced _ _ _ h := by cases h
  source _ _ h := by cases h
  notDisappeared _ h := by cases h
  attempted _ h := by cases h

omit [Callback κ] in
/-- The outbox becomes part of the observations. -/
theorem BufferInv.flush (hI : BufferInv tr w) :
    BufferInv (tr ++ w.out) { w with out := [] } := by
  have hT : tr ++ w.out ++ ({ w with out := [] } : SfuWorker κ).out
      = tr ++ w.out := List.append_nil _
  constructor
  case fresh =>
    rw [hT]
    exact hI.fresh
  case place =>
    rw [hT]
    exact hI.place
  case unique =>
    rw [hT]
    exact hI.unique
  case waiting =>
    intro p l e hl he
    have hw := hI.waiting p l e hl he
    exact ⟨by rw [hT]; exact hw.accepted, hw.producing, hw.router⟩
  case noProducer => exact hI.noProducer
  case producing => exact hI.producing
  case others =>
    rw [hT]
    exact hI.others
  case produced =>
    rw [hT]
    exact hI.produced
  case source =>
    rw [hT]
    exact hI.source
  case notDisappeared =>
    rw [hT]
    exact hI.notDisappeared
  case attempted => exact hI.attempted

omit [Callback κ] in
/-- A consume that is served adds to the outbox. -/
theorem consumeAndAck_out (w : SfuWorker κ) (p : PendingConsume κ) :
    ∃ l, (w.consumeAndAck p).out = w.out ++ l := by
  unfold SfuWorker.consumeAndAck
  split
  · exact ⟨[], (List.append_nil _).symm⟩
  · exact ⟨_, rfl⟩

/-- **A consume request is accepted exactly when it passes the checks**: its
transport is registered, and so is the producing transport, on the same
router. -/
theorem consume_accepted_iff {w w' : SfuWorker κ} {id p : TransportId}
    {rtpCapabilities : Json} {cb : κ} {obs : List (Out κ)}
    (hs : (machine κ).step w (.transportUpdate id
      (.transportConsumerConsumeEvent rtpCapabilities p) cb)
        = some (w', obs)) :
    .accepted w.requestIdGen p ∈ obs ↔ ∃ X P,
      w.transports.get? id = some X ∧ w.transports.get? p = some P ∧
        P.router = X.router := by
  have hobs : obs = (SfuWorker.onTransportUpdate { w with out := [] } id
      (.transportConsumerConsumeEvent rtpCapabilities p) cb).out := by
    have hs : some _ = some _ := hs
    cases hs
    rfl
  rw [hobs]
  unfold SfuWorker.onTransportUpdate
  cases hX : w.transports.get? id with
  | none => simp
  | some X =>
      simp only [SfuWorker.emit, SfuWorker.onConsume]
      cases hP : w.transports.get? p with
      | none =>
          -- nacked: `producing transport not found`
          simp only [SfuWorker.nackSync, SfuWorker.emit]
          split <;> simp
      | some P =>
          by_cases hr : P.router = X.router
          · simp only [hr, ne_eq, not_true_eq_false, if_false]
            split
            · simp
              exact hr
            · obtain ⟨l, hl⟩ := consumeAndAck_out _ _
              rw [hl]
              simp
              exact hr
          · -- nacked: `transports belong to different routers`
            simp only [hr, ne_eq, not_false_eq_true, if_true,
              SfuWorker.nackSync, SfuWorker.emit]
            split <;> simp [hr]

/-- **Consume buffering neither loses nor duplicates.**  In every run of a
worker whose publishers' ack callbacks return. -/
theorem consumesOnce_of_returns
    (hret : ∀ cb : κ, Callback.ackThrows cb = none)
    {past : List (SfuWorker κ)} {w : SfuWorker κ} {tr : List (Out κ)}
    (h : (machine κ).Run anyStep past w tr) : ConsumesOnce tr w := by
  refine BufferInv.consumesOnce (h.invariant (fun w tr =>
    SetupWF w ∧ BufferInv tr { w with out := [] }) ?_ ?_).2
  · rintro w ⟨workerId, rfl⟩
    exact ⟨setupWF_initial workerId, bufferInv_initial workerId⟩
  · intro w tr a w' obs hI _ hs
    obtain ⟨d, hd, hp⟩ := Option.map_eq_some_iff.mp hs
    cases hp
    have hstep := act_stretch hd
    have hwf : SetupWF { w with out := [] } := { hI.1 with }
    exact ⟨hwf.step hstep, (hI.2.step hwf hret hstep).flush⟩

end Runs

/-- Two consumers wait for one producer, one of them fails later; a third
comes after the producer and is still under way. -/
def threeConsumers : List (Action Unit) :=
  -- a router, and two transports on it
  [.newRouterRequest 0 7, .fulfilled 0 (.router "caps"), .resume 0,
   .newWebRtcTransportRequest 0 100 true,
   .newWebRtcTransportRequest 0 200 false,
   .fulfilled 0 (.transport "100"), .fulfilled 0 (.transport "200"),
   -- two consumes wait for the producer
   .transportUpdate 200 (.transportConsumerConsumeEvent "rtp" 100) (),
   .transportUpdate 200 (.transportConsumerConsumeEvent "rtp" 100) (),
   -- the producer is there, and takes the buffer with it
   .transportUpdate 100 (.transportProducerProduceEvent "audio" "rtp") (),
   .fulfilled 0 (.producer ⟨"p"⟩),
   -- a third one need not wait
   .transportUpdate 200 (.transportConsumerConsumeEvent "rtp" 100) (),
   .fulfilled 0 (.consumer ⟨"c", "p", "audio", "rtp"⟩), .resume 0,
   -- one of the buffered ones fails
   .rejected 0 "closed"]

/-- Two requests are answered, the third is under way. -/
theorem consumesOnce_of_returns_three : ∃ past w tr,
    (machine Unit).Run anyStep past w tr ∧
      tr.countP (Out.answers 0) = 1 ∧ tr.countP (Out.answers 1) = 1 ∧
      w.inFlight 3 = 1 ∧ ConsumesOnce tr w := by
  obtain ⟨past, w, tr, hr, hp⟩ := Machine.Run.exists_of_exec
    (M := machine Unit) (G := anyStep) (l := threeConsumers)
    (p := fun r => decide (r.2.2.countP (Out.answers 0) = 1 ∧
      r.2.2.countP (Out.answers 1) = 1 ∧ r.2.1.inFlight 3 = 1))
    ⟨7, rfl⟩ (by decide)
  obtain ⟨h₀, h₁, h₃⟩ := of_decide_eq_true hp
  exact ⟨past, w, tr, hr, h₀, h₁, h₃,
    consumesOnce_of_returns (fun _ => rfl) hr⟩

end Twolk.Worker
