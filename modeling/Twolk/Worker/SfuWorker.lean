/-
  Twolk.Worker.SfuWorker
  ──────────────────────
  `worker.ts`: the SFU worker's routers, transports and producers, and the
  buffer of consume requests that wait for a producer.

  The media library behind `media-port.ts` is outside the model: a media
  operation the worker has started is an entry of `operations`, which may be
  fulfilled with any value or rejected with any message, in any order.  What
  a settled promise leaves to do later is an entry of `tasks`.

  The callbacks of a transport update are a caller: the publisher's `cb`,
  and the number of the update, by which the statements tell two updates
  with one callback apart.

  The worker never drops a router or a transport, and every field of a
  transport is constant: a transport object is its record.
-/
import Twolk.Domain
import Twolk.Lib.Machine

namespace Twolk.Worker

open Twolk.Lib

/-! ## §1. `media-port.ts`. -/

/-- Produced media source created by a WebRTC transport. -/
structure MediaProducer where
  id : String
  deriving DecidableEq, Repr

/-- Media consumer created for a member that subscribes to a producer. -/
structure MediaConsumer where
  id : String
  producerId : String
  kind : Json
  rtpParameters : Json
  deriving DecidableEq, Repr

/-- What a media promise is fulfilled with. -/
inductive MediaValue where
  /-- `IMediaRouter`, read for its capabilities. -/
  | router (rtpCapabilities : Json)
  /-- `IMediaTransport`, read for its parameters. -/
  | transport (params : Json)
  | done
  | producer (producer : MediaProducer)
  | consumer (consumer : MediaConsumer)
  deriving DecidableEq, Repr

/-! ## §2. Worker-local state. -/

/-- Worker-local media router state. -/
structure Router where
  rtpCapabilities : Json
  webRtcProducerTransports : JsSet TransportId
  webRtcConsumerTransports : JsSet TransportId
  webRtcProducers : JsMap TransportId MediaProducer
  webRtcConsumers : JsMap TransportId MediaConsumer
  producerToConsumersSet : JsMap TransportId (JsSet TransportId)

/-- Worker-local WebRTC transport state. -/
structure WebRtcTransport where
  id : TransportId
  params : Json
  router : RouterId
  deriving DecidableEq, Repr

/-- The errors of a transport update. -/
inductive UpdateError where
  | producingTransportNotFound
  | differentRouters
  | producerDisappeared
  | consumerNotFound
  /-- Thrown by the media layer, or by the publisher's own ack. -/
  | thrown (message : String)
  deriving DecidableEq, Repr

/-- The text of an error. -/
def UpdateError.message : UpdateError → String
  | .producingTransportNotFound => "producing transport not found"
  | .differentRouters =>
      "producing and consuming transport belong to different routers"
  | .producerDisappeared =>
      "producer disappeared before consume could complete"
  | .consumerNotFound => "consumer not found"
  | .thrown message => message

section Promises

variable (κ : Type)

/-- Who waits for the answer to a transport update. -/
structure Caller where
  request : Nat
  cb : κ
  deriving DecidableEq

/-- Buffered consume request waiting for its producer to exist. -/
structure PendingConsume where
  consumerTransport : WebRtcTransport
  producingTransport : WebRtcTransport
  rtpCapabilities : Json
  caller : Caller κ

/-- A media operation under way, with its arguments and what its
continuation captured. -/
inductive Operation where
  | createRouter (assignedId : RouterId)
  | createWebRtcTransport (router : RouterId) (assignedId : TransportId)
      (isProducer : Bool)
  | connect (transport : WebRtcTransport) (dtlsParameters : Json)
      (caller : Caller κ)
  | produce (transport : WebRtcTransport) (kind rtpParameters : Json)
      (caller : Caller κ)
  | consume (consumerTransport : WebRtcTransport) (producerId : String)
      (rtpCapabilities : Json) (paused : Bool) (caller : Caller κ)
  | resume (consumer : MediaConsumer) (caller : Caller κ)

/-- A ready continuation. -/
inductive Task where
  /-- `await this.createRouter(..)` returned. -/
  | routerCreated (assignedId : RouterId) (rtpCapabilities : Json)
  /-- The promise of `_attemptConsuming` is fulfilled. -/
  | attempted (caller : Caller κ) (consumer : Option MediaConsumer)

/-- What a stretch does towards the outside, and the points of the code the
statements refer to. -/
inductive Out where
  | routerAck (assignedId : RouterId) (rtpCapabilities : Json)
  | routerNack (assignedId : RouterId) (message : String)
  | transportAck (assignedId : TransportId) (options : Json)
  | transportNack (assignedId : TransportId) (message : String)
  | ack (caller : Caller κ) (resp : Option TransportUpdateAck)
  | nack (caller : Caller κ) (error : UpdateError)
  /-- An exception leaves the consumer and reaches the publisher. -/
  | thrown (message : String)
  | unhandledRejection (message : String)
  /-- The update is for a transport of this worker. -/
  | handled (caller : Caller κ)
  /-- A consume request passed the transport and router checks. -/
  | accepted (request : Nat) (producingTransport : TransportId)
  /-- `mediaTransport.consume(producerId, ..)` for a consume request. -/
  | mediaConsume (request : Nat) (producerId : String)
  /-- A producer was created on a transport. -/
  | produced (transport : TransportId) (producerId : String)
  deriving DecidableEq

end Promises

/-- The worker.  `assignedRouters` and `assignedTransports` are the ids it
has been asked to use. -/
structure SfuWorker (κ : Type) where
  workerId : WorkerId
  routers : JsMap RouterId Router
  transports : JsMap TransportId WebRtcTransport
  /-- Keyed by producing transport until a producer exists. -/
  pendingConsumes : JsMap TransportId (List (PendingConsume κ))
  assignedRouters : JsSet RouterId
  assignedTransports : JsSet TransportId
  requestIdGen : Nat
  -- media operations under way
  operations : List (Operation κ)
  -- promise continuations ready to run
  tasks : List (Task κ)
  -- outward effects of the current stretch
  out : List (Out κ)

namespace SfuWorker

variable {κ : Type}

/-- `new SfuWorker(workerId, ..)`. -/
def initial (workerId : WorkerId) : SfuWorker κ where
  workerId := workerId
  routers := ∅
  transports := ∅
  pendingConsumes := ∅
  assignedRouters := ∅
  assignedTransports := ∅
  requestIdGen := 0
  operations := []
  tasks := []
  out := []

/-- The worker does `o`. -/
def emit (w : SfuWorker κ) (o : Out κ) : SfuWorker κ :=
  { w with out := w.out ++ [o] }

/-- Make a continuation ready. -/
def defer (w : SfuWorker κ) (t : Task κ) : SfuWorker κ :=
  { w with tasks := w.tasks ++ [t] }

/-- Start a media operation. -/
def start (w : SfuWorker κ) (op : Operation κ) : SfuWorker κ :=
  { w with operations := w.operations ++ [op] }

/-! ## §3. Answering a transport update. -/

section Answer

variable [Callback κ]

/-- `nack(..)` while `publish` runs. -/
def nackSync (w : SfuWorker κ) (caller : Caller κ) (error : UpdateError) :
    SfuWorker κ :=
  let w := w.emit (.nack caller error)
  match Callback.nackThrows caller.cb error.message with
  | none => w
  | some e => w.emit (.thrown e)

/-- `.catch((err) => nack(err))`: nothing catches what `nack` throws. -/
def nackCatch (w : SfuWorker κ) (caller : Caller κ) (error : UpdateError) :
    SfuWorker κ :=
  let w := w.emit (.nack caller error)
  match Callback.nackThrows caller.cb error.message with
  | none => w
  | some e => w.emit (.unhandledRejection e)

/-- `nack(..)` in a `.then` body whose `.catch` calls `nack` again. -/
def nackThen (w : SfuWorker κ) (caller : Caller κ) (error : UpdateError) :
    SfuWorker κ :=
  let w := w.emit (.nack caller error)
  match Callback.nackThrows caller.cb error.message with
  | none => w
  | some e => nackCatch w caller (.thrown e)

/-- `ack(..)` in a `.then` body, followed by `k` when it returns; its
`.catch` nacks what it throws. -/
def ackThen (w : SfuWorker κ) (caller : Caller κ)
    (resp : Option TransportUpdateAck) (k : SfuWorker κ → SfuWorker κ) :
    SfuWorker κ :=
  let w := w.emit (.ack caller resp)
  match Callback.ackThrows caller.cb with
  | none => k w
  | some e => nackCatch w caller (.thrown e)

end Answer

/-! ## §4. Consuming. -/

/-- `router.webRtcProducers.get(transport)`. -/
def producerOf (w : SfuWorker κ) (router : RouterId)
    (transport : TransportId) : Option MediaProducer :=
  (w.routers.get? router).bind fun r => r.webRtcProducers.get? transport

/-- `_consumeAndAck`, up to the promise of `_attemptConsuming`. -/
def consumeAndAck (w : SfuWorker κ) (p : PendingConsume κ) : SfuWorker κ :=
  match w.producerOf p.consumerTransport.router p.producingTransport.id with
  -- `Promise.resolve(null)`
  | none => w.defer (.attempted p.caller none)
  -- `true`: the consumer starts paused
  | some producer =>
      (w.emit (.mediaConsume p.caller.request producer.id)).start
        (.consume p.consumerTransport producer.id p.rtpCapabilities true
          p.caller)

/-- Flush the consume requests that wait for a producer on `transport`. -/
def flush (w : SfuWorker κ) (transport : TransportId) : SfuWorker κ :=
  match w.pendingConsumes.get? transport with
  | none => w
  -- deleted before the `forEach`, so a later flush finds nothing
  | some pending => pending.foldl consumeAndAck
      { w with pendingConsumes := w.pendingConsumes.delete transport }

/-! ## §5. Bus consumers. -/

/-- `onNewRouterRequest` up to its `await`.  Each worker handles only
requests explicitly assigned to it. -/
def onNewRouterRequest (w : SfuWorker κ) (assignedId : RouterId)
    (workerId : WorkerId) : SfuWorker κ :=
  if workerId = w.workerId then
    { w with
      assignedRouters := JsSet.add w.assignedRouters assignedId }.start
        (.createRouter assignedId)
  else w

/-- `onNewWebRtcTransportRequest` up to its `await`.  A request for a router
of a different worker is skipped silently. -/
def onNewWebRtcTransportRequest (w : SfuWorker κ) (routerId : RouterId)
    (assignedId : TransportId) (isProducer : Bool) : SfuWorker κ :=
  if w.routers.has routerId then
    { w with
      assignedTransports := JsSet.add w.assignedTransports assignedId }.start
        (.createWebRtcTransport routerId assignedId isProducer)
  else w

variable [Callback κ]

/-- The `C:transportConsumerConsumeEvent` branch of `onTransportUpdate`. -/
def onConsume (w : SfuWorker κ) (transport : WebRtcTransport)
    (rtpCapabilities : Json) (producingTransportId : TransportId)
    (caller : Caller κ) : SfuWorker κ :=
  match w.transports.get? producingTransportId with
  | none => w.nackSync caller .producingTransportNotFound
  | some producingTransport =>
      if producingTransport.router ≠ transport.router then
        w.nackSync caller .differentRouters
      else
        -- registered whether it consumes now or is buffered
        let w := { w with
          routers := w.routers.modify transport.router fun r =>
            { r with
              producerToConsumersSet :=
                r.producerToConsumersSet.addTo producingTransportId
                  transport.id } }
        let w := w.emit (.accepted caller.request producingTransportId)
        let p : PendingConsume κ :=
          { consumerTransport := transport, producingTransport,
            rtpCapabilities, caller }
        match w.producerOf transport.router producingTransportId with
        -- buffer the request and let the produce handler flush it
        | none => { w with
            pendingConsumes := w.pendingConsumes.set producingTransportId
              (((w.pendingConsumes.get? producingTransportId).getD []) ++
                [p]) }
        | some _ => w.consumeAndAck p

/-- `onTransportUpdate` for a `C:` update.  An update for a transport of a
different worker is skipped silently. -/
def onTransportUpdate (w : SfuWorker κ) (id : TransportId)
    (update : TransportUpdateC) (cb : κ) : SfuWorker κ :=
  match w.transports.get? id with
  | none => w
  | some transport =>
      let caller : Caller κ := ⟨w.requestIdGen, cb⟩
      let w := { w with requestIdGen := w.requestIdGen + 1 }
      let w := w.emit (.handled caller)
      match update with
      | .transportConnectEvent dtlsParameters =>
          w.start (.connect transport dtlsParameters caller)
      | .transportProducerProduceEvent kind rtpParameters =>
          w.start (.produce transport kind rtpParameters caller)
      | .transportConsumerConsumeEvent rtpCapabilities producingTransportId =>
          w.onConsume transport rtpCapabilities producingTransportId caller
      | .transportConsumerResumeEvent =>
          -- a consumer is there only after its `consume` was fulfilled
          match (w.routers.get? transport.router).bind fun r =>
              r.webRtcConsumers.get? id with
          | none => w.nackSync caller .consumerNotFound
          | some consumer => w.start (.resume consumer caller)

/-! ## §6. Media promises. -/

/-- `createRouter` after its `await`. -/
def onRouterCreated (w : SfuWorker κ) (assignedId : RouterId)
    (rtpCapabilities : Json) : SfuWorker κ :=
  { w with
    routers := w.routers.set assignedId
      { rtpCapabilities, webRtcProducerTransports := ∅,
        webRtcConsumerTransports := ∅, webRtcProducers := ∅,
        webRtcConsumers := ∅, producerToConsumersSet := ∅ } }.defer
    (.routerCreated assignedId rtpCapabilities)

/-- `onNewWebRtcTransportRequest` after its `await`. -/
def onTransportCreated (w : SfuWorker κ) (router : RouterId)
    (assignedId : TransportId) (isProducer : Bool) (params : Json) :
    SfuWorker κ :=
  { w with
    transports := w.transports.set assignedId
      { id := assignedId, params, router }
    routers := w.routers.modify router fun r =>
      -- the router lists its transports by their direction
      if isProducer then
        { r with
          webRtcProducerTransports :=
            JsSet.add r.webRtcProducerTransports assignedId }
      else
        { r with
          webRtcConsumerTransports :=
            JsSet.add r.webRtcConsumerTransports assignedId } }.emit
    (.transportAck assignedId params)

/-- The `.then` body of `produce`. -/
def onProduced (w : SfuWorker κ) (transport : WebRtcTransport)
    (caller : Caller κ) (producer : MediaProducer) : SfuWorker κ :=
  let w := { w with
    routers := w.routers.modify transport.router fun r =>
      { r with
        webRtcProducers := r.webRtcProducers.set transport.id producer } }
  -- an `ack` that throws leaves the buffered requests where they are
  (w.emit (.produced transport.id producer.id)).ackThen caller
    (some ⟨producer.id, none, none, none⟩) (flush · transport.id)

/-- The `.then` body of `_attemptConsuming`. -/
def onConsumed (w : SfuWorker κ) (consumerTransport : WebRtcTransport)
    (caller : Caller κ) (consumer : MediaConsumer) : SfuWorker κ :=
  { w with
    routers := w.routers.modify consumerTransport.router fun r =>
      { r with
        webRtcConsumers :=
          r.webRtcConsumers.set consumerTransport.id consumer } }.defer
    (.attempted caller (some consumer))

/-- The promise of a media operation is fulfilled. -/
def onFulfilled (w : SfuWorker κ) :
    Operation κ → MediaValue → Option (SfuWorker κ)
  | .createRouter assignedId, .router rtpCapabilities =>
      some (w.onRouterCreated assignedId rtpCapabilities)
  | .createWebRtcTransport router assignedId isProducer,
    .transport params =>
      some (w.onTransportCreated router assignedId isProducer params)
  | .connect _ _ caller, .done => some (w.ackThen caller none id)
  | .produce transport _ _ caller, .producer producer =>
      some (w.onProduced transport caller producer)
  | .consume consumerTransport _ _ _ caller, .consumer consumer =>
      some (w.onConsumed consumerTransport caller consumer)
  | .resume _ caller, .done => some (w.ackThen caller none id)
  -- a promise is fulfilled with a value of its own type
  | _, _ => none

/-- The promise of a media operation is rejected. -/
def onRejected (w : SfuWorker κ) (message : String) :
    Operation κ → SfuWorker κ
  -- what was recorded before the `await` stays
  | .createRouter assignedId => w.emit (.routerNack assignedId message)
  | .createWebRtcTransport _ assignedId _ =>
      w.emit (.transportNack assignedId message)
  | .connect _ _ caller | .produce _ _ _ caller | .consume _ _ _ _ caller |
    .resume _ caller => w.nackCatch caller (.thrown message)

/-- Run one ready continuation. -/
def resumeTask (w : SfuWorker κ) : Task κ → SfuWorker κ
  | .routerCreated assignedId rtpCapabilities =>
      w.emit (.routerAck assignedId rtpCapabilities)
  | .attempted caller none => w.nackThen caller .producerDisappeared
  | .attempted caller (some consumer) =>
      w.ackThen caller (some ⟨consumer.id, some consumer.producerId,
        some consumer.kind, some consumer.rtpParameters⟩) id

/-! ## §7. The worker as a machine. -/

end SfuWorker

/-- What can happen to a worker next. -/
inductive Action (κ : Type) where
  | newRouterRequest (assignedId : RouterId) (workerId : WorkerId)
  | newWebRtcTransportRequest (routerId : RouterId)
      (assignedId : TransportId) (isProducer : Bool)
  | transportUpdate (id : TransportId) (update : TransportUpdateC) (cb : κ)
  /-- The `i`-th media operation is fulfilled. -/
  | fulfilled (i : Nat) (value : MediaValue)
  /-- The `i`-th media operation is rejected. -/
  | rejected (i : Nat) (message : String)
  /-- Run the `i`-th ready continuation. -/
  | resume (i : Nat)

namespace SfuWorker

variable {κ : Type} [Callback κ]

/-- One stretch, with an empty outbox at its start.  The coordinator's
generators never issue an id twice, so no request reuses one. -/
def act (w : SfuWorker κ) : Action κ → Option (SfuWorker κ)
  | .newRouterRequest assignedId workerId =>
      -- the coordinator assigns an id once
      if w.assignedRouters.has assignedId then none
      else some (w.onNewRouterRequest assignedId workerId)
  | .newWebRtcTransportRequest routerId assignedId isProducer =>
      if w.assignedTransports.has assignedId then none
      else some (w.onNewWebRtcTransportRequest routerId assignedId isProducer)
  | .transportUpdate id update cb => some (w.onTransportUpdate id update cb)
  | .fulfilled i value => (w.operations[i]?).bind fun op =>
      -- a continuation of mediasoup's promise
      onFulfilled { w with operations := w.operations.eraseIdx i } op value
  | .rejected i message => (w.operations[i]?).map fun op =>
      onRejected { w with operations := w.operations.eraseIdx i } message op
  | .resume i => (w.tasks[i]?).map fun t =>
      -- a continuation of a promise of the worker
      resumeTask { w with tasks := w.tasks.eraseIdx i } t

end SfuWorker

/-- The worker machine, observed through its outbox. -/
def machine (κ : Type) [Callback κ] :
    Machine (SfuWorker κ) (Action κ) (Out κ) where
  init w := ∃ workerId, w = SfuWorker.initial workerId
  step w a := (SfuWorker.act { w with out := [] } a).map fun w' => (w', w'.out)

end Twolk.Worker
