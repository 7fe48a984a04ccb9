/-
  Twolk.Web.Transport
  ───────────────────
  `transport.ts`, `producer.ts` and `consumer.ts`, with the parts of
  `member.ts`, `space.ts` and `SpacePage.tsx` that hold a member's transport
  and play its track.

  Creating a transport starts a chain of promises.  For a consumer: the ack
  of `transportConsumerConsume`, the consume of the mediasoup client, the ack
  of `transportConsumerResume`; for a producer the produce of the mediasoup
  client, which asks for a connect and a produce on the way.  A chain is its
  current promise (`ConsumerChain`, `ProducerChain`); it goes on in a stretch
  of its own.

  The mediasoup client is outside the model: it raises `connect` and
  `produce` whenever it likes, and its promises are settled with anything.
  Which options its device refuses is the parameter `device`.

  A `Member` is an object with an identity (`MemberRef`): a transport that
  becomes ready after its member was replaced emits on the old object, while
  `getConsumerTrack` asks for the member the space has now.
-/
import Twolk.Web.Acks
import Twolk.Web.Client

namespace Twolk.Web.Transports

open Twolk.Lib Signaling

/-! ## §1. The mediasoup client. -/

/-- A `MediaStreamTrack`. -/
abbrev Track := Nat

/-- A producer of the mediasoup client. -/
structure MediasoupProducer where
  id : String
  deriving DecidableEq, Repr

/-- A consumer of the mediasoup client. -/
structure MediasoupConsumer where
  id : String
  producerId : String
  /-- `track.kind`. -/
  kind : Json
  track : Track
  deriving DecidableEq, Repr

/-! ## §2. Transports. -/

/-- A `Member` object. -/
abbrev MemberRef := Nat

/-- `Transport`, with what is assigned to its producer or consumer and the
handlers that wait for it. -/
structure Transport (α η : Type) where
  options : Json
  assigned : Option α
  onceReadyHandlers : List η

/-- The chain of `createConsumer`, at one of its promises. -/
inductive ConsumerChain where
  /-- `ackPromise`. -/
  | consuming (request : Nat)
  /-- `mediasoupTransport.consume(options)`. -/
  | mediaConsume (options : TransportUpdateAck)
  /-- `resumeAckPromise`. -/
  | resuming (mediasoupConsumer : MediasoupConsumer) (request : Nat)
  | done
  /-- `console.error("Failed to consume:", err)`. -/
  | failed (message : String)
  deriving DecidableEq, Repr

/-- The request whose ack the chain waits for. -/
def ConsumerChain.request : ConsumerChain → Option Nat
  | .consuming request | .resuming _ request => some request
  | _ => none

/-- The chain of `createProducer`. -/
inductive ProducerChain where
  /-- `mediasoupTransport.produce(..)`. -/
  | producing
  | done
  /-- `console.error("Failed to produce:", err)`. -/
  | failed (message : String)
  deriving DecidableEq, Repr

/-- A handler emits `transportReady` on a member object, whose listeners
know it by an id. -/
structure ConsumerTransport extends
    Transport MediasoupConsumer (MemberRef × MemberId) where
  sourceMemberId : MemberId
  chain : ConsumerChain

/-- The handlers emit `transportReady` on the producing member. -/
structure ProducerTransport extends Transport MediasoupProducer Unit where
  chain : ProducerChain
  /-- The calls of `replaceTrack` whose promise is not settled. -/
  replacing : List Track
  /-- The track `replaceTrack` gave the mediasoup producer last; before that
  it sends a silent one. -/
  track : Option Track

/-- A transport of either kind. -/
inductive Owner where
  | producer (t : Nat)
  | consumer (t : Nat)
  deriving DecidableEq, Repr

/-- The ack a message waits for. -/
def ackEventOf : ForwardedEvent → Acks.AckEvent
  | .transportProducerConnect _ => .transportProducerConnectAck
  | .transportProducerProduce .. => .transportProducerProduceAck
  | .transportConsumerConnect .. => .transportConsumerConnectAck
  | .transportConsumerConsume .. => .transportConsumerConsumeAck
  | .transportConsumerResume _ => .transportConsumerResumeAck

/-- What is done and seen. -/
inductive Out where
  /-- `socket.emit(..)` for a transport. -/
  | emit (owner : Owner) (message : ForwardedEvent) (cId : String)
  | received (ack : Acks.Ack)
  /-- `mediasoupTransport.consume(options)`, and what it is fulfilled with. -/
  | mediaConsume (t : Nat) (options : TransportUpdateAck)
  | mediaConsumed (t : Nat) (mediasoupConsumer : MediasoupConsumer)
  | assigned (t : Nat) (mediasoupConsumer : MediasoupConsumer)
  | produced (t : Nat) (mediasoupProducer : MediasoupProducer)
  /-- The effect that sets the user's track runs. -/
  | trackEffect (track : Track)
  /-- `transport._producer.setTrack(track)`. -/
  | setTrack (t : Nat) (track : Track)
  /-- `mediasoupProducer.replaceTrack({ track })`, and that its promise is
  fulfilled. -/
  | replaceTrack (t : Nat) (track : Track)
  | replaced (t : Nat) (track : Track)
  /-- `console.error` at the end of a chain. -/
  | failed (owner : Owner) (message : String)
  /-- The callbacks of `connect` and `produce` events. -/
  | callback (request : Nat) (value : Acks.AckValue)
  | errback (request : Nat) (message : String)
  /-- A handler given to `onceReady` of the factory throws. -/
  | thrown (message : String)
  | unhandledRejection (message : String)
  deriving DecidableEq

/-! ## §3. The page. -/

/-- The page: the view, the socket, and the transports of both kinds. -/
structure Page where
  space : Space
  socket : Acks.Socket
  /-- The requests of `space.transports` whose handler has run. -/
  ran : List Nat
  consumers : List ConsumerTransport
  producers : List ProducerTransport
  /-- The object `_consumerMembers` has under an id. -/
  memberRef : MemberId → MemberRef
  nextRef : MemberRef
  /-- `_transport` of the member objects. -/
  transport : MemberRef → Option Nat
  /-- `_producerMember._transport`. -/
  producerTransport : Option Nat
  /-- The requests of `connect` and `produce` events under way. -/
  raised : List Nat
  -- SpacePage
  /-- The track each element of `consumerAudioRefs` plays. -/
  consumerAudio : JsMap MemberId Track
  userMediaTrack : Option Track
  /-- The `userMediaTrack` the effect that sets the track has seen last. -/
  effectTrack : Option Track
  /-- The listeners of the producing member that wait for `transportReady` to
  set a track, each with the track of its closure, in order. -/
  trackHandlers : List Track

namespace Page

/-- Nothing has arrived. -/
def initial (producerData : MemberData) (isMuted : Bool) : Page where
  space := Space.initial producerData isMuted
  socket := Acks.Socket.initial
  ran := []
  consumers := []
  -- one record for each transport ever created, in order
  producers := []
  memberRef := fun _ => 0
  nextRef := 0
  transport := fun _ => none
  -- what the space refers to, by reference
  producerTransport := none
  raised := []
  consumerAudio := ∅
  userMediaTrack := none
  -- the user's track, as the hook and its effect have it
  effectTrack := none
  trackHandlers := []

/-! ## §4. `space.ts`: tracks. -/

/-- `_consumerMembers.get(memberId)?._transport`. -/
def consumerTransport (w : Page) (memberId : MemberId) : Option Nat :=
  if w.space.consumerMembers.has memberId then
    w.transport (w.memberRef memberId)
  else none

/-- `transport._consumer._mediasoupConsumer` of transport `t`. -/
def mediasoupConsumer (w : Page) (t : Nat) : Option MediasoupConsumer :=
  w.consumers[t]?.bind fun T => T.assigned

/-- The mediasoup producer assigned to transport `t`. -/
def mediasoupProducer (w : Page) (t : Nat) : Option MediasoupProducer :=
  w.producers[t]?.bind fun T => T.assigned

/-- The producer member has a transport with a mediasoup producer. -/
def producerIsReady (w : Page) : Bool :=
  w.producerTransport.any fun t => (w.mediasoupProducer t).isSome

/-- `getConsumerTrack`, with `Consumer.getTrack`. -/
def getConsumerTrack (w : Page) (memberId : MemberId) :
    Except String Track :=
  match w.consumerTransport memberId with
  | none => .error "consumer transport not assigned"
  | some t => match w.mediasoupConsumer t with
    | none => .error "mediasoup consumer not assigned"
    | some c =>
        if c.kind = "audio" then .ok c.track
        else .error "mediasoup consumer not assigned"

/-- `setProducerTrack`, with `Producer.setTrack`.  That one is `async`: it
returns when it has called `replaceTrack`, and what it throws, or the promise
of `replaceTrack` is rejected with, is a rejection nobody handles. -/
def setProducerTrack (w : Page) (track : Track) :
    Except String (Page × List Out) :=
  match w.producerTransport with
  | none => .error "producer transport not assigned"
  | some t =>
      -- `replaceTrack` is called only on a mediasoup producer that is there
      if (w.mediasoupProducer t).isSome then
        .ok ({ w with
          producers := w.producers.modify t fun T =>
            { T with replacing := T.replacing ++ [track] } },
          [.setTrack t track, .replaceTrack t track])
      -- the promise of an `async` setter is rejected, and nobody awaits it
      else .ok (w, [.setTrack t track,
        .unhandledRejection "mediasoup producer not assigned"])

/-! ## §5. `SpacePage.tsx`: `transportReady`. -/

/-- `emitEvent("transportReady")` of a consumer member, whose listener is the
page's: it plays the track it asks the space for. -/
def consumerReady (w : Page) (handler : MemberRef × MemberId) :
    Except String Page :=
  (w.getConsumerTrack handler.2).map fun track =>
    { w with consumerAudio := w.consumerAudio.set handler.2 track }

/-- The listeners that wait to set a track, one after the other: each sets
its track and takes itself off.  What one throws ends the `forEach`. -/
def runTrackHandlers (w : Page) : List Track → Page × List Out × Option String
  | [] => (w, [], none)
  | track :: handlers =>
      match w.setProducerTrack track with
      | .error e => (w, [], some e)
      | .ok (w, out) =>
          let (w, out', e) := runTrackHandlers
            { w with trackHandlers := w.trackHandlers.erase track } handlers
          (w, out ++ out', e)

/-- `emitEvent("transportReady")` of the producing member; the page's other
listener does nothing. -/
def producerReady (w : Page) : Page × List Out × Option String :=
  w.runTrackHandlers w.trackHandlers

/-- The effect over `[space, userMediaTrack]` runs with a track.  It returns
no cleanup, so a listener of an earlier run stays. -/
def trackEffect (w : Page) (track : Track) : Page × List Out :=
  let w := { w with effectTrack := some track }
  if w.producerIsReady then
    match w.setProducerTrack track with
    | .ok (w, out) => (w, .trackEffect track :: out)
    | .error e => (w, [.trackEffect track, .thrown e])
  else ({ w with trackHandlers := w.trackHandlers ++ [track] },
    [.trackEffect track])

/-! ## §6. `transport.ts`: readiness of a transport. -/

/-- The `forEach` of `notifyReady`; what a handler throws ends it. -/
def notifyConsumers (w : Page) :
    List (MemberRef × MemberId) → Page × Option String
  | [] => (w, none)
  | handler :: handlers =>
      match w.consumerReady handler with
      | .error e => (w, some e)
      | .ok w => notifyConsumers w handlers

/-- `assignMediasoupConsumer`, in the last `.then` of the chain: the
`.catch` behind it takes what a handler throws, and the handlers stay. -/
def assignMediasoupConsumer (w : Page) (t : Nat) (T : ConsumerTransport)
    (c : MediasoupConsumer) : Page × List Out :=
  -- the getter finds the consumer while the handlers run
  let w := { w with
    consumers := w.consumers.set t { T with assigned := some c } }
  match w.notifyConsumers T.onceReadyHandlers with
  | (w, none) =>
      -- the handlers are forgotten once all of them have run
      ({ w with
        consumers := w.consumers.set t
          { T with
            assigned := some c
            onceReadyHandlers := []
            chain := .done } }, [.assigned t c])
  -- one that throws rejects the chain, and all of them stay registered
  | (w, some e) =>
      ({ w with
        consumers := w.consumers.set t
          { T with assigned := some c, chain := .failed e } },
        [.assigned t c, .failed (.consumer t) e])

/-- The handlers of a producer transport in turn; the first that throws ends
the loop. -/
def notifyProducers (w : Page) : List Unit → Page × List Out × Option String
  | [] => (w, [], none)
  | () :: handlers =>
      match w.producerReady with
      | (w, out, some e) => (w, out, some e)
      | (w, out, none) =>
          let (w, out', e) := notifyProducers w handlers
          (w, out ++ out', e)

/-- `assignMediasoupProducer`. -/
def assignMediasoupProducer (w : Page) (t : Nat) (p : MediasoupProducer) :
    Page × List Out :=
  let handlers := (w.producers[t]?.map fun T => T.onceReadyHandlers).getD []
  -- the getter finds the producer while the handlers run
  let w := { w with
    producers := w.producers.modify t fun T => { T with assigned := some p } }
  match w.notifyProducers handlers with
  | (w, out, none) =>
      -- the handlers are forgotten once all of them have run
      ({ w with
        producers := w.producers.modify t fun T =>
          { T with onceReadyHandlers := [], chain := .done } },
        .produced t p :: out)
  | (w, out, some e) =>
      -- one that throws rejects the chain, and all of them stay registered
      ({ w with
        producers := w.producers.modify t fun T =>
          { T with chain := .failed e } },
        .produced t p :: out ++ [.failed (.producer t) e])

/-! ## §7. `transport.ts`: creating a transport. -/

/-- A request over the socket and the promise of its ack. -/
def request (w : Page) (message : ForwardedEvent) (cId : String) : Page :=
  { w with socket := w.socket.request (ackEventOf message) cId }

/-- `createConsumer` in a ready factory, up to its first promise. -/
def createConsumer (w : Page) (options rtpCapabilities : Json)
    (sourceMemberId : MemberId) (cId : String) : Page × List Out :=
  let message := ForwardedEvent.transportConsumerConsume rtpCapabilities
    sourceMemberId
  ({ w.request message cId with
      consumers := w.consumers ++
        [{ options, assigned := none, onceReadyHandlers := [],
           sourceMemberId, chain := .consuming w.socket.requests.length }] },
    [.emit (.consumer w.consumers.length) message cId])

/-- `createProducer` in a ready factory, up to its first promise. -/
def createProducer (w : Page) (options : Json) : Page :=
  { w with
    producers := w.producers ++
      [{ options, assigned := none, onceReadyHandlers := [],
         chain := .producing, replacing := [], track := none }] }

/-- `assignTransport` of the member object `ref`, with the new transport
`t`: it is not ready yet. -/
def assignConsumerTransport (w : Page) (memberId : MemberId) (t : Nat) :
    Page :=
  let ref := w.memberRef memberId
  { w with
    transport := Function.update w.transport ref (some t)
    consumers := w.consumers.modify t fun T =>
      { T with
        onceReadyHandlers := T.onceReadyHandlers ++ [(ref, memberId)] } }

/-- `assignTransport(transport)` of the producer member. -/
def assignProducerTransport (w : Page) (t : Nat) : Page :=
  { w with
    producerTransport := some t
    producers := w.producers.modify t fun T =>
      { T with onceReadyHandlers := T.onceReadyHandlers ++ [()] } }

section Factory

variable (device : Json → Bool)

/-- A handler `handleTransportParams` gave to the factory runs. -/
def runHandler (w : Page) (rtpCapabilities : Json) (cId : String) :
    TransportRequest → Page × List Out
  | .createProducer options =>
      if device options then
        ((w.createProducer options).assignProducerTransport
          w.producers.length, [])
      else (w, [.thrown "device"])
  | .createConsumer options memberId =>
      if device options then
        let (w', out) :=
          w.createConsumer options rtpCapabilities memberId cId
        -- `this._consumerMembers.get(memberId)!`
        if w.space.consumerMembers.has memberId then
          (w'.assignConsumerTransport memberId w.consumers.length, out)
        else (w', out ++ [.thrown "Cannot read properties of undefined"])
      else (w, [.thrown "device"])

end Factory

/-- The promise of the chain of transport `t` is settled: the next `.then`,
or the `.catch`, runs. -/
def continueConsumer (w : Page) (t : Nat) (T : ConsumerTransport)
    (outcome : Acks.Outcome) : Option (Page × List Out) :=
  match T.chain, outcome with
  -- the ack of `consume` carries what mediasoup needs
  | .consuming _, .fulfilled (.consumed options) =>
      some ({ w with
        consumers := w.consumers.set t
          { T with chain := .mediaConsume options } },
        [.mediaConsume t options])
  -- the track is assigned only after the resume is acked
  | .resuming c _, .fulfilled _ => some (w.assignMediasoupConsumer t T c)
  -- a timeout or a nack rejects the chain at either point
  | .consuming _, .rejected e | .resuming _ _, .rejected e =>
      some ({ w with
        consumers := w.consumers.set t { T with chain := .failed e } },
        [.failed (.consumer t) e])
  | _, _ => none

/-- `mediasoupTransport.consume(options)` is fulfilled: the server is told
to resume. -/
def mediaConsumed (w : Page) (t : Nat) (T : ConsumerTransport)
    (c : MediasoupConsumer) (cId : String) : Page × List Out :=
  let message := ForwardedEvent.transportConsumerResume T.sourceMemberId
  ({ w.request message cId with
      consumers := w.consumers.set t
        { T with chain := .resuming c w.socket.requests.length } },
    [.mediaConsumed t c, .emit (.consumer t) message cId])

/-- A `connect` or `produce` event of transport `owner`. -/
def raise (w : Page) (owner : Owner) (message : ForwardedEvent)
    (cId : String) : Page × List Out :=
  ({ w.request message cId with
      raised := w.raised ++ [w.socket.requests.length] },
    [.emit owner message cId])

/-- `ackPromise.then(callback).catch(errback)`. -/
def answerRaised (request : Nat) : Acks.Outcome → Out
  | .fulfilled value => .callback request value
  | .rejected e => .errback request e

/-! ## §8. `space.ts`: members. -/

/-- `new Member(..)` under an id. -/
def newMember (w : Page) (id : MemberId) : Page :=
  { w with
    memberRef := Function.update w.memberRef id w.nextRef
    nextRef := w.nextRef + 1 }

/-- The members a snapshot creates. -/
def addInitial (receivingMemberId : MemberId) (w : Page)
    (member : ClientSideMember) : Page :=
  if member.id = receivingMemberId then w else w.newMember member.id

/-- One event of the channel, as far as it is not an ack. -/
def receiveSpace (w : Page) (event : ServerToClientEvent) : Page :=
  let w' := { w with space := w.space.receive event }
  match event with
  | .spaceInit receivingMemberId _ clientSideSpace =>
      if w.space.spaceInitReceived then w'
      else clientSideSpace.members.foldl (addInitial receivingMemberId) w'
  | .memberJoin member =>
      if w.space.consumerMembers.has member.id ∨
          w.space.producerMemberId = some member.id then w'
      else w'.newMember member.id
  | _ => w'

/-- One event of the channel. -/
def receive (w : Page) (event : ServerToClientEvent) : Page × List Out :=
  match Acks.ackOf event with
  | some ack => ({ w with socket := w.socket.receive ack }, [.received ack])
  | none => (w.receiveSpace event, [])

/-- `replaceTrack` of transport `t` has given its producer the track of call
`i`. -/
def trackReplaced (w : Page) (t i : Nat) (T : ProducerTransport)
    (track : Track) : Page × List Out :=
  ({ w with
      producers := w.producers.set t
        { T with replacing := T.replacing.eraseIdx i, track := some track } },
    [.replaced t track])

/-- The promise of call `i` of `replaceTrack` is rejected: the track has
ended, or the producer is closed. -/
def replaceTrackRejected (w : Page) (t i : Nat) (T : ProducerTransport)
    (message : String) : Page × List Out :=
  ({ w with
      producers := w.producers.set t
        { T with replacing := T.replacing.eraseIdx i } },
    [.unhandledRejection message])

/-- What the promise of a request is settled with. -/
def outcomeOf (w : Page) (request : Nat) : Option Acks.Outcome :=
  w.socket.requests[request]?.bind Acks.Request.outcome

end Page

/-! ## §9. The page as a machine. -/

/-- What can happen next.  `cId` is what `getRandomUUID()` returns. -/
inductive Action where
  | receive (event : ServerToClientEvent)
  | disconnected
  /-- The `i`-th handler given to the factory runs; it may have had to wait
  for it. -/
  | runHandler (i : Nat) (rtpCapabilities : Json) (cId : String)
  | timeout (request : Nat)
  /-- The promise a consumer's chain waits for is settled by an ack or a
  timer. -/
  | continueConsumer (t : Nat)
  /-- The mediasoup client settles its promises. -/
  | mediaConsumed (t : Nat) (c : MediasoupConsumer) (cId : String)
  | mediaConsumeRejected (t : Nat) (message : String)
  | produced (t : Nat) (p : MediasoupProducer)
  | produceRejected (t : Nat) (message : String)
  /-- The mediasoup client raises an event. -/
  | producerConnect (t : Nat) (dtlsParameters : Json) (cId : String)
  | producerProduce (t : Nat) (kind rtpParameters : Json) (cId : String)
  | consumerConnect (t : Nat) (dtlsParameters : Json) (cId : String)
  /-- The callback of a raised event is called. -/
  | answerRaised (request : Nat)
  /-- `getUserMedia` is fulfilled; the effect that calls it may run again. -/
  | userMedia (track : Track)
  /-- The effect that sets the user's track runs, as there is another. -/
  | trackEffect
  /-- A promise of `replaceTrack` is settled, in any order. -/
  | trackReplaced (t i : Nat)
  | replaceTrackRejected (t i : Nat) (message : String)

namespace Page

variable (device : Json → Bool)

/-- One event of the channel, one answer, or one promise that settles. -/
def step (w : Page) : Action → Option (Page × List Out)
  | .receive event => some (w.receive event)
  | .disconnected =>
      some ({ w with space := { w.space with spaceInitReceived := false } },
        [])
  -- the deferred requests run when the factory is ready, each once
  | .runHandler i rtpCapabilities cId =>
      if i ∈ w.ran then none
      else (w.space.transports[i]?).map fun request =>
        runHandler device { w with ran := w.ran ++ [i] } rtpCapabilities cId
          request
  | .timeout i => (w.socket.requests[i]?).bind fun r =>
      if r.timer then some ({ w with socket := w.socket.timeout i r }, [])
      else none
  -- a chain goes on when the promise it waits for is settled
  | .continueConsumer t => (w.consumers[t]?).bind fun T =>
      (T.chain.request.bind w.outcomeOf).bind (w.continueConsumer t T)
  -- mediasoup's `consume` settles in its own time
  | .mediaConsumed t c cId => (w.consumers[t]?).bind fun T =>
      match T.chain with
      | .mediaConsume _ => some (w.mediaConsumed t T c cId)
      | _ => none
  | .mediaConsumeRejected t message => (w.consumers[t]?).bind fun T =>
      match T.chain with
      | .mediaConsume _ => some ({ w with
          consumers := w.consumers.set t
            { T with chain := .failed message } },
          [.failed (.consumer t) message])
      | _ => none
  -- so does its `produce`
  | .produced t p => (w.producers[t]?).bind fun T =>
      if T.chain = .producing then some (w.assignMediasoupProducer t p)
      else none
  | .produceRejected t message => (w.producers[t]?).bind fun T =>
      if T.chain = .producing then some ({ w with
          producers := w.producers.set t
            { T with chain := .failed message } },
          [.failed (.producer t) message])
      else none
  -- mediasoup raises these events when it needs the server
  | .producerConnect t dtlsParameters cId =>
      (w.producers[t]?).map fun _ => w.raise (.producer t)
        (.transportProducerConnect dtlsParameters) cId
  | .producerProduce t kind rtpParameters cId =>
      (w.producers[t]?).map fun _ => w.raise (.producer t)
        (.transportProducerProduce kind rtpParameters) cId
  | .consumerConnect t dtlsParameters cId =>
      (w.consumers[t]?).map fun T => w.raise (.consumer t)
        (.transportConsumerConnect dtlsParameters T.sourceMemberId) cId
  -- their callback or errback is called when the ack settles
  | .answerRaised request =>
      if request ∈ w.raised then
        (w.outcomeOf request).map fun outcome =>
          ({ w with raised := w.raised.erase request },
            [answerRaised request outcome])
      else none
  -- the hook sets the track, and the effect runs where it has changed
  | .userMedia track => some ({ w with userMediaTrack := some track }, [])
  | .trackEffect =>
      if w.userMediaTrack = w.effectTrack then none
      else w.userMediaTrack.map w.trackEffect
  -- a `replaceTrack` that is pending settles, in any order
  | .trackReplaced t i => (w.producers[t]?).bind fun T =>
      (T.replacing[i]?).map (w.trackReplaced t i T)
  | .replaceTrackRejected t i message => (w.producers[t]?).bind fun T =>
      (T.replacing[i]?).map fun _ => w.replaceTrackRejected t i T message

end Page

/-- The page machine. -/
def machine (device : Json → Bool) (producerData : MemberData)
    (isMuted : Bool) : Machine Page Action Out where
  init w := w = Page.initial producerData isMuted
  step w a := w.step device a

end Twolk.Web.Transports
