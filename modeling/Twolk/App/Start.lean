/-
  Twolk.App.Start
  ───────────────
  **STARTING THE APPLICATION.**

  Embeds `app.ts` with what the constructors and the `start` methods of the
  services do to the bus.  The coordinator is constructed first and
  subscribes to registrations; each SFU worker registers when its media
  worker has been created, in whatever order that happens; once all of them
  have, the signaling servers register, and everything starts.

  Main result: `application_started` — no registration is lost: the
  coordinator knows the workers in the order of their creation, and no queue
  has a consumer until all services are there; from then on each queue has
  the consumers the other modules give it, the workers and servers in the
  order of the configuration.
-/
import Twolk.App.Config
import Twolk.Bus.InProcessBus
import Twolk.Coordinator.Step

namespace Twolk.App

open Twolk.Lib Twolk.Bus Coordinator

/-! ## §1. Callbacks. -/

/-- The callbacks the services register.  A worker or a server is known by
its place in the configuration. -/
inductive Consumer where
  -- `Coordinator`, `RouterAllocator`: registrations
  | onSignalingServerConnected | onSignalingServerDisconnected
  | onMediaWorkerConnected | onMediaWorkerDisconnected
  -- `SpaceService`
  | onCreateSpaceRequest | onReadSpaceRequest
  | onSubscribeToSpaceRequest | onUnsubscribeFromSpaceRequest
  -- `MemberService`
  | onAddMemberRequest | onRemoveMemberRequest
  -- `SpaceUpdateDispatcher`
  | onSpaceUpdate | onTransportUpdate
  -- `Coordinator`
  | onTryJoinSpaceRequest
  -- `SfuWorker`
  | workerOnNewRouterRequest (worker : Nat)
  | workerOnNewWebRtcTransportRequest (worker : Nat)
  | workerOnTransportUpdate (worker : Nat)
  -- `SignalingServer`
  | serverOnSpaceUpdate (server : Nat)
deriving DecidableEq, Repr

/-- Calls of `bus.consume`, in order. -/
def consumeAll (bus : InProcessBus Consumer)
    (calls : List (QueueTypes × Consumer)) : InProcessBus Consumer :=
  calls.foldl (fun bus call => bus.consume call.1 call.2) bus

/-- `Coordinator.start()`: the sub-services, then the coordinator. -/
def coordinatorStart : List (QueueTypes × Consumer) :=
  [(.createSpaceRequest, .onCreateSpaceRequest),
   (.readSpaceRequest, .onReadSpaceRequest),
   (.subscribeToSpaceRequest, .onSubscribeToSpaceRequest),
   (.unsubscribeFromSpaceRequest, .onUnsubscribeFromSpaceRequest),
   (.addMemberRequest, .onAddMemberRequest),
   (.removeMemberRequest, .onRemoveMemberRequest),
   (.spaceUpdateStream, .onSpaceUpdate),
   (.transportUpdateStream, .onTransportUpdate),
   (.tryJoinSpaceRequest, .onTryJoinSpaceRequest)]

/-- `SfuWorker.start()`. -/
def workerStart (worker : Nat) : List (QueueTypes × Consumer) :=
  [(.newRouterRequest, .workerOnNewRouterRequest worker),
   (.newWebRtcTransportRequest, .workerOnNewWebRtcTransportRequest worker),
   (.transportUpdateStream, .workerOnTransportUpdate worker)]

/-- `SignalingServer.start()`. -/
def serverStart (server : Nat) : List (QueueTypes × Consumer) :=
  [(.spaceUpdateStream, .serverOnSpaceUpdate server)]

/-- The calls of `bus.consume` at the end of `app.ts`. -/
def startCalls (config : AppConfig Nat) : List (QueueTypes × Consumer) :=
  coordinatorStart ++
    (List.range config.sfuWorkers.length).flatMap workerStart ++
    (List.range config.signalingServers.length).flatMap serverStart

/-! ## §2. The application. -/

/-- Where the start of the application has come to. -/
inductive Phase where
  /-- Media workers are being created. -/
  | creating
  /-- The creation of one failed, and the module with it. -/
  | failed
  | started
deriving DecidableEq, Repr

variable {κ P : Type}

/-- The state of `app.ts`: the bus, the coordinator, the workers registered
so far in order, and those whose media worker is being created. -/
structure Application (κ P : Type) where
  process : Process Consumer P
  coordinator : Coord κ
  created : List (SfuWorkerConfig Nat)
  pending : List (SfuWorkerConfig Nat)
  phase : Phase

/-- What a registration callback does.  The others are not called before the
end of `app.ts`. -/
def handle (c : Coord κ) : Consumer → Args P → Coord κ
  | .onSignalingServerConnected, .serverConnected serverId serverUrl =>
      ChannelPreAllocator.onServerConnected c serverId serverUrl
  | .onSignalingServerDisconnected, .serverDisconnected serverId =>
      ChannelPreAllocator.onServerDisconnected c serverId
  | .onMediaWorkerConnected, .workerConnected workerId =>
      RouterAllocator.onMediaWorkerConnected c workerId
  | .onMediaWorkerDisconnected, .workerDisconnected workerId =>
      RouterAllocator.onMediaWorkerDisconnected c workerId
  | _, _ => c

/-- What a mark of the bus makes the coordinator do. -/
def handleMark (c : Coord κ) : Mark Consumer P → Coord κ
  | .called _ callback _ args => handle c callback args
  | _ => c

namespace Application

/-- A walk over a set of the bus, to its end. -/
def forEach (app : Application κ P) (set : CallbackSet) (args : Args P) :
    Application κ P :=
  let r := (app.process.enter set args).drain
    ((app.process.callbacks set).elements.length + 1)
  { app with
    process := r.1
    coordinator := r.2.foldl handleMark app.coordinator }

/-- `new SfuWorker(id, mediaWorker, bus)`. -/
def newSfuWorker (app : Application κ P) (worker : SfuWorkerConfig Nat) :
    Application κ P :=
  app.forEach .workerConnectedCbs (.workerConnected worker.id)

/-- The URL `SignalingServer.create` announces. -/
def serverUrl (tls : Option TlsOptions) (port : Nat) : String :=
  (if tls.isSome then "wss" else "ws") ++ "://localhost:" ++ toString port

/-- `SignalingServer.create(..)`. -/
def newSignalingServer (tls : Option TlsOptions) (app : Application κ P)
    (server : SignalingServerConfig Nat) : Application κ P :=
  app.forEach .serverConnectedCbs
    (.serverConnected server.id (serverUrl tls server.port))

/-- `new Coordinator(bus, ..)`: the subscriptions of its constructor. -/
def newCoordinator (bus : InProcessBus Consumer) : InProcessBus Consumer :=
  (((bus.onMediaWorkerConnected .onMediaWorkerConnected
    ).onMediaWorkerDisconnected .onMediaWorkerDisconnected
    ).onSignalingServerConnected .onSignalingServerConnected
    ).onSignalingServerDisconnected .onSignalingServerDisconnected

/-- Builds the configured allocation strategy implementation. -/
def buildAllocationStrategy (name : String) :
    Except String RoundRobinStrategy :=
  if name = "round-robin" then .ok ⟨0⟩
  else .error ("unknown allocation strategy: " ++ name)

/-- Up to the `await`. -/
def construct (config : AppConfig Nat) : Except String (Application κ P) := do
  let serverStrategy ←
    buildAllocationStrategy config.channelAllocationStrategy
  let workerStrategy ← buildAllocationStrategy config.workerAllocationStrategy
  return {
    process := ⟨newCoordinator .new, [], 0⟩
    coordinator := { Coord.initial with serverStrategy, workerStrategy }
    created := []
    pending := config.sfuWorkers
    phase := .creating }

/-- From the `await` on: the servers register, and everything starts. -/
def proceed (config : AppConfig Nat) (app : Application κ P) :
    Application κ P :=
  let app :=
    config.signalingServers.foldl (newSignalingServer config.tls) app
  { app with
    process := { app.process with
      bus := consumeAll app.process.bus (startCalls config) }
    phase := .started }

end Application

/-- What can happen while the application starts. -/
inductive StartAction where
  /-- The creation of the `i`-th pending media worker succeeds. -/
  | created (i : Nat)
  | creationFailed (i : Nat)
  /-- All have been created. -/
  | proceed
deriving DecidableEq, Repr

/-- The application from the end of its first stretch. -/
def startMachine (κ P : Type) (config : AppConfig Nat) :
    Machine (Application κ P) StartAction Unit where
  init app := Application.construct config = .ok app
  step app
    -- a worker is entered in the order in which its promise fulfils
    | .created i =>
        if app.phase = .creating then
          (app.pending[i]?).map fun worker =>
            ({ app.newSfuWorker worker with
              created := app.created ++ [worker]
              pending := app.pending.eraseIdx i }, [])
        else none
    -- one rejected promise rejects `Promise.all`, and nothing is started
    | .creationFailed i =>
        if app.phase = .creating ∧ i < app.pending.length then
          some ({ app with phase := .failed }, [])
        else none
    -- the rest of the function runs when every worker has been created
    | .proceed =>
        if app.phase = .creating ∧ app.pending = [] then
          some (app.proceed config, [])
        else none

/-! ## §3. Registrations. -/

variable {app : Application κ P} {set : CallbackSet} {args : Args P}

/-- Handling the marks of a walk is handling its calls, in order. -/
theorem foldl_handleMark (w : Nat) (args : Args P) :
    ∀ (entries : List (Consumer × Nat)) (c : Coord κ),
      List.foldl handleMark c (entries.map
          (fun (e : Consumer × Nat) => .called w e.1 e.2 args) ++
            [.finished w]) =
        (entries.map Prod.fst).foldl (fun c cb => handle c cb args) c
  | [], _ => rfl
  | e :: entries, c => foldl_handleMark w args entries (handle c e.1 args)

/-- At start no callback changes the bus: a walk hands its arguments to every
callback in turn. -/
theorem Application.forEach_eq (app : Application κ P) (set : CallbackSet)
    (args : Args P) :
    app.forEach set args = { app with
      process := { app.process with walks := app.process.walks + 1 }
      coordinator := (app.process.callbacks set).elements.foldl
        (fun c cb => handle c cb args) app.coordinator } := by
  unfold Application.forEach
  rw [Process.drain_enter]
  dsimp only
  rw [foldl_handleMark]
  rfl

/-- Who hears of registrations. -/
structure Subscribed (bus : InProcessBus Consumer) : Prop where
  workerConnected : (bus.callbacks .workerConnectedCbs).elements =
    [.onMediaWorkerConnected]
  serverConnected : (bus.callbacks .serverConnectedCbs).elements =
    [.onSignalingServerConnected]

/-- A new media worker is registered with the coordinator. -/
theorem Application.newSfuWorker_eq (h : Subscribed app.process.bus)
    (worker : SfuWorkerConfig Nat) :
    app.newSfuWorker worker = { app with
      process := { app.process with walks := app.process.walks + 1 }
      coordinator :=
        RouterAllocator.onMediaWorkerConnected app.coordinator worker.id } := by
  unfold Application.newSfuWorker
  rw [Application.forEach_eq]
  unfold Process.callbacks
  rw [h.workerConnected]
  rfl

/-- So is a new signaling server, under its own URL. -/
theorem Application.newSignalingServer_eq (h : Subscribed app.process.bus)
    (tls : Option TlsOptions) (server : SignalingServerConfig Nat) :
    Application.newSignalingServer tls app server = { app with
      process := { app.process with walks := app.process.walks + 1 }
      coordinator := ChannelPreAllocator.onServerConnected app.coordinator
        server.id (Application.serverUrl tls server.port) } := by
  unfold Application.newSignalingServer
  rw [Application.forEach_eq]
  unfold Process.callbacks
  rw [h.serverConnected]
  rfl

/-! ## §4. Consumers. -/

/-- `consume` adds one consumer, at the end. -/
theorem elements_consume (bus : InProcessBus Consumer)
    (call : QueueTypes × Consumer) (queueName : QueueTypes)
    (h : call.2 ∉ (bus.callbacks (.queueConsumerCallbacks call.1)).elements) :
    ((bus.consume call.1 call.2).callbacks
        (.queueConsumerCallbacks queueName)).elements =
      (bus.callbacks (.queueConsumerCallbacks queueName)).elements ++
        if call.1 = queueName then [call.2] else [] := by
  show ((Function.update bus.callbacks _ _)
    (.queueConsumerCallbacks queueName)).elements = _
  by_cases hq : call.1 = queueName
  · subst hq
    rw [Function.update_self, if_pos rfl]
    exact LiveSet.elements_add h
  · rw [Function.update_of_ne, if_neg hq, List.append_nil]
    exact fun heq => hq (CallbackSet.queueConsumerCallbacks.inj heq).symm

/-- The consumers of a queue, from the calls that registered them. -/
def consumersOf (queueName : QueueTypes)
    (calls : List (QueueTypes × Consumer)) : List Consumer :=
  (calls.filter fun call => call.1 = queueName).map Prod.snd

/-- By induction on the calls: those of a queue add up. -/
theorem elements_consumeAll (queueName : QueueTypes) :
    ∀ (calls : List (QueueTypes × Consumer)) (bus : InProcessBus Consumer)
      (before : List (QueueTypes × Consumer)),
      (before ++ calls).Nodup →
      (∀ q, (bus.callbacks (.queueConsumerCallbacks q)).elements =
        consumersOf q before) →
      ((consumeAll bus calls).callbacks
          (.queueConsumerCallbacks queueName)).elements =
        consumersOf queueName (before ++ calls)
  -- by induction on the calls, with those before in the hypothesis
  | [], bus, before, _, hbus => by
      rw [List.append_nil]
      exact hbus queueName
  | call :: calls, bus, before, hnodup, hbus => by
      rw [List.append_cons] at hnodup ⊢
      refine elements_consumeAll queueName calls _ _ hnodup fun q => ?_
      -- the consumer is a new one in its set, since no call is made twice
      have hnew : call.2 ∉
          (bus.callbacks (.queueConsumerCallbacks call.1)).elements := by
        rw [hbus]
        intro hin
        obtain ⟨x, hx, heq⟩ := List.mem_map.mp hin
        obtain ⟨hx, hq⟩ := List.mem_filter.mp hx
        have hcall : x = call := Prod.ext (of_decide_eq_true hq) heq
        have hnodup := (List.nodup_append.mp hnodup).1
        rw [List.nodup_append] at hnodup
        exact hnodup.2.2 x hx call List.mem_cons_self hcall
      rw [elements_consume _ _ _ hnew, hbus]
      unfold consumersOf
      rw [List.filter_append, List.map_append]
      congr 1
      by_cases hq : call.1 = q
      · simp [hq]
      · simp [hq]

/-- The consumers the other modules give a queue. -/
def servicesOf (config : AppConfig Nat) : QueueTypes → List Consumer
  | .createSpaceRequest => [.onCreateSpaceRequest]
  | .readSpaceRequest => [.onReadSpaceRequest]
  | .subscribeToSpaceRequest => [.onSubscribeToSpaceRequest]
  | .unsubscribeFromSpaceRequest => [.onUnsubscribeFromSpaceRequest]
  | .addMemberRequest => [.onAddMemberRequest]
  | .removeMemberRequest => [.onRemoveMemberRequest]
  | .tryJoinSpaceRequest => [.onTryJoinSpaceRequest]
  -- each worker registers its own consumer of the queue
  | .newRouterRequest =>
      (List.range config.sfuWorkers.length).map .workerOnNewRouterRequest
  | .newWebRtcTransportRequest =>
      (List.range config.sfuWorkers.length).map
        .workerOnNewWebRtcTransportRequest
  | .spaceUpdateStream => .onSpaceUpdate ::
      (List.range config.signalingServers.length).map .serverOnSpaceUpdate
  | .transportUpdateStream => .onTransportUpdate ::
      (List.range config.sfuWorkers.length).map .workerOnTransportUpdate

theorem consumersOf_append (queueName : QueueTypes)
    (calls calls' : List (QueueTypes × Consumer)) :
    consumersOf queueName (calls ++ calls') =
      consumersOf queueName calls ++ consumersOf queueName calls' := by
  unfold consumersOf
  rw [List.filter_append, List.map_append]

theorem consumersOf_flatMap (queueName : QueueTypes)
    (calls : Nat → List (QueueTypes × Consumer)) (services : List Nat) :
    consumersOf queueName (services.flatMap calls) =
      services.flatMap fun i => consumersOf queueName (calls i) := by
  induction services with
  | nil => rfl
  | cons i services ih =>
      rw [List.flatMap_cons, consumersOf_append, ih]
      rfl

/-- The consumers of a queue after start are the services that consume it, each
once. -/
theorem consumersOf_startCalls (config : AppConfig Nat)
    (queueName : QueueTypes) :
    consumersOf queueName (startCalls config) =
      servicesOf config queueName := by
  unfold startCalls
  rw [consumersOf_append, consumersOf_append, consumersOf_flatMap,
    consumersOf_flatMap]
  cases queueName <;>
    simp [consumersOf, coordinatorStart, workerStart, serverStart, servicesOf,
      ← List.map_eq_flatMap]

/-- Different services have different callbacks, so no call of `consume` at
start is a repetition. -/
theorem startCalls_nodup (config : AppConfig Nat) :
    (startCalls config).Nodup := by
  have hworkers : ∀ i j, i ≠ j → (workerStart i).Disjoint (workerStart j) := by
    intro i j hij call hi hj
    simp [workerStart] at hi hj
    rcases hi with rfl | rfl | rfl <;> simp_all
  have hservers : ∀ i j, i ≠ j → (serverStart i).Disjoint (serverStart j) := by
    intro i j hij call hi hj
    simp [serverStart] at hi hj
    simp_all
  unfold startCalls
  refine List.nodup_append.mpr ⟨List.nodup_append.mpr ⟨by decide,
    List.nodup_flatMap.mpr ⟨fun i _ => ?_, ?_⟩, ?_⟩,
    List.nodup_flatMap.mpr ⟨fun j _ => List.nodup_singleton _, ?_⟩, ?_⟩
  · simp [workerStart]
  · exact List.nodup_range.imp fun {i j} => hworkers i j
  · -- the coordinator against the workers
    intro call hcall call' hcall' heq
    obtain ⟨i, -, hi⟩ := List.mem_flatMap.mp hcall'
    simp [workerStart, ← heq] at hi
    rcases hi with rfl | rfl | rfl <;> simp [coordinatorStart] at hcall
  · exact List.nodup_range.imp fun {i j} => hservers i j
  · -- both against the servers
    intro call hcall call' hcall' heq
    obtain ⟨j, -, hj⟩ := List.mem_flatMap.mp hcall'
    simp [serverStart, ← heq] at hj
    subst hj
    rcases List.mem_append.mp hcall with hcall | hcall
    · simp [coordinatorStart] at hcall
    · obtain ⟨i, -, hi⟩ := List.mem_flatMap.mp hcall
      simp [workerStart] at hi

/-! ## §5. Runs. -/

variable {config : AppConfig Nat}

/-- The entry of a server in `ChannelPreAllocator`. -/
def endpoint (tls : Option TlsOptions)
    (server : SignalingServerConfig Nat) : ServerEntry :=
  ⟨server.id, Application.serverUrl tls server.port⟩

/-- A new coordinator, after the registrations of these workers and then of
these servers. -/
def registered (workers : List (SfuWorkerConfig Nat))
    (servers : List ServerEntry) : Coord κ :=
  servers.foldl
    (fun c s => ChannelPreAllocator.onServerConnected c s.id s.url)
    (workers.foldl
      (fun c w => RouterAllocator.onMediaWorkerConnected c w.id) .initial)

/-- What holds of the application at any time. -/
structure Wired (config : AppConfig Nat) (app : Application κ P) : Prop where
  subscribed : Subscribed app.process.bus
  created : (app.created ++ app.pending).Perm config.sfuWorkers
  coordinator : app.coordinator = registered app.created
    (if app.phase = .started then
      config.signalingServers.map (endpoint config.tls) else [])
  consumers : ∀ q,
    (app.process.callbacks (.queueConsumerCallbacks q)).elements =
      if app.phase = .started then servicesOf config q else []
  all : app.phase = .started → app.pending = []

/-- By induction on the servers: all register, in order. -/
theorem foldl_newSignalingServer (tls : Option TlsOptions) :
    ∀ (servers : List (SignalingServerConfig Nat)) (app : Application κ P),
      Subscribed app.process.bus → ∃ walks,
        servers.foldl (Application.newSignalingServer tls) app = { app with
          process := { app.process with walks }
          coordinator := (servers.map (endpoint tls)).foldl
            (fun c s => ChannelPreAllocator.onServerConnected c s.id s.url)
            app.coordinator }
  | [], app, _ => ⟨app.process.walks, rfl⟩
  | server :: servers, app, h => by
      rw [List.foldl_cons, Application.newSignalingServer_eq h]
      exact foldl_newSignalingServer tls servers _ h

/-- `consume` does not touch the registrations. -/
theorem callbacks_consumeAll {set : CallbackSet}
    (h : ∀ q, set ≠ .queueConsumerCallbacks q) :
    ∀ (calls : List (QueueTypes × Consumer)) (bus : InProcessBus Consumer),
      (consumeAll bus calls).callbacks set = bus.callbacks set
  | [], _ => rfl
  | call :: calls, bus => by
      refine (callbacks_consumeAll h calls _).trans ?_
      exact Function.update_of_ne (h call.1) _ _

theorem buildAllocationStrategy_eq_ok {name : String}
    {strategy : RoundRobinStrategy}
    (h : Application.buildAllocationStrategy name = .ok strategy) :
    strategy = ⟨0⟩ := by
  unfold Application.buildAllocationStrategy at h
  split at h
  · cases h
    rfl
  · cases h

namespace Wired

/-- The application as its constructor leaves it. -/
theorem construct (h : Application.construct config = .ok app) :
    Wired config app := by
  unfold Application.construct at h
  obtain ⟨serverStrategy, hserver, h⟩ := bind_eq_ok.mp h
  obtain ⟨workerStrategy, hworker, h⟩ := bind_eq_ok.mp h
  rw [buildAllocationStrategy_eq_ok hserver,
    buildAllocationStrategy_eq_ok hworker] at h
  cases h
  refine ⟨⟨rfl, rfl⟩, .refl _, rfl, fun q => rfl, fun hphase => ?_⟩
  cases hphase

/-- A media worker has been created. -/
theorem worker (h : Wired config app) (hphase : app.phase = .creating)
    {i : Nat} {worker : SfuWorkerConfig Nat}
    (hworker : app.pending[i]? = some worker) :
    Wired config { app.newSfuWorker worker with
      created := app.created ++ [worker]
      pending := app.pending.eraseIdx i } := by
  have hnot : app.phase ≠ .started := by
    rw [hphase]
    decide
  rw [Application.newSfuWorker_eq h.subscribed]
  refine ⟨h.subscribed, ?_, ?_, h.consumers, fun hs => absurd hs hnot⟩
  · show (app.created ++ [worker] ++ app.pending.eraseIdx i).Perm _
    rw [List.append_assoc]
    exact ((perm_cons_eraseIdx hworker).append_left _).trans h.created
  · show RouterAllocator.onMediaWorkerConnected app.coordinator worker.id = _
    rw [h.coordinator, if_neg hnot]
    unfold registered
    rw [List.foldl_append]
    rfl

/-- All media workers have been created: the servers come next. -/
theorem proceed (h : Wired config app) (hphase : app.phase = .creating)
    (hpending : app.pending = []) : Wired config (app.proceed config) := by
  have hnot : app.phase ≠ .started := by
    rw [hphase]
    decide
  obtain ⟨walks, heq⟩ := foldl_newSignalingServer config.tls
    config.signalingServers app h.subscribed
  have hcoord := h.coordinator
  rw [if_neg hnot] at hcoord
  unfold Application.proceed
  rw [heq]
  refine ⟨⟨?_, ?_⟩, h.created, ?_, fun q => ?_, fun _ => hpending⟩
  · show ((consumeAll app.process.bus _).callbacks _).elements = _
    rw [callbacks_consumeAll (by simp)]
    exact h.subscribed.workerConnected
  · show ((consumeAll app.process.bus _).callbacks _).elements = _
    rw [callbacks_consumeAll (by simp)]
    exact h.subscribed.serverConnected
  · show List.foldl _ app.coordinator _ = _
    rw [hcoord]
    rfl
  · show ((consumeAll app.process.bus (startCalls config)).callbacks
      (.queueConsumerCallbacks q)).elements = servicesOf config q
    rw [← consumersOf_startCalls]
    refine elements_consumeAll q _ _ [] (startCalls_nodup config) fun q => ?_
    exact (h.consumers q).trans (if_neg hnot)

/-- **In every run of the start** the parts are wired as the configuration
says. -/
theorem run {past : List (Application κ P)} {tr : List Unit}
    (h : (startMachine κ P config).Run anyStep past app tr) :
    Wired config app := by
  -- what holds of the wiring, by induction on the run
  refine h.invariant (fun app _ => Wired config app) (fun _ => construct) ?_
  intro s _ a s' obs hI _ hs
  cases a with
  | created i =>
      simp only [startMachine] at hs
      split at hs
      · rename_i hphase
        obtain ⟨w, hw, heq⟩ := Option.map_eq_some_iff.mp hs
        cases heq
        exact hI.worker hphase hw
      · cases hs
  -- a failed start has subscribed nobody
  | creationFailed i =>
      simp only [startMachine] at hs
      split at hs
      · rename_i hphase
        have hnot : s.phase ≠ .started := by
          rw [hphase.1]
          decide
        cases hs
        refine ⟨hI.subscribed, hI.created, ?_, fun q => ?_, fun hf => ?_⟩
        · exact hI.coordinator.trans (by rw [if_neg hnot]; rfl)
        · exact (hI.consumers q).trans (if_neg hnot)
        · cases hf
      · cases hs
  | proceed =>
      simp only [startMachine] at hs
      split at hs
      · rename_i hphase
        cases hs
        exact hI.proceed hphase.1 hphase.2
      · cases hs

end Wired

/-! ## §6. The coordinator of the application. -/

/-- What the coordinator knows once everybody is registered. -/
theorem registered_eq (workers : List (SfuWorkerConfig Nat))
    (servers : List ServerEntry) :
    (registered workers servers : Coord κ) = { Coord.initial with
      workerIds := workers.map SfuWorkerConfig.id
      servers } := by
  have hworkers : ∀ (workers : List (SfuWorkerConfig Nat)) (c : Coord κ),
      workers.foldl
          (fun c w => RouterAllocator.onMediaWorkerConnected c w.id) c =
        { c with
          workerIds := c.workerIds ++ workers.map SfuWorkerConfig.id } := by
    intro workers
    induction workers with
    | nil => intro c; rw [List.map_nil, List.append_nil]; rfl
    | cons w workers ih =>
        intro c
        rw [List.foldl_cons, ih, List.map_cons, List.append_cons]
        rfl
  have hservers : ∀ (servers : List ServerEntry) (c : Coord κ),
      servers.foldl
          (fun c s => ChannelPreAllocator.onServerConnected c s.id s.url) c =
        { c with servers := c.servers ++ servers } := by
    intro servers
    induction servers with
    | nil => intro c; rw [List.append_nil]; rfl
    | cons s servers ih =>
        intro c
        rw [List.foldl_cons, ih, List.append_cons c.servers]
        rfl
  unfold registered
  rw [hworkers, hservers]
  rfl

/-- By induction on the registrations, which are actions of the
coordinator. -/
theorem reachable_foldl [Callback κ] {β : Type} {f : Coord κ → β → Coord κ}
    (action : β → Coordinator.Action κ)
    (hf : ∀ c b, c.out = [] → c.act (action b) = some (f c b) ∧
      (f c b).out = []) :
    ∀ (registrations : List β) {c : Coord κ},
      (Coordinator.machine κ).Reachable c → c.out = [] →
      (Coordinator.machine κ).Reachable (registrations.foldl f c) ∧
        (registrations.foldl f c).out = []
  | [], _, hc, hout => ⟨hc, hout⟩
  | b :: registrations, c, hc, hout => by
      obtain ⟨hact, hout'⟩ := hf c b hout
      have hs : (Coordinator.machine κ).step c (action b) =
          some (f c b, (f c b).out) := by
        show (Coord.act { c with out := [] } (action b)).map _ = _
        rw [show ({ c with out := [] } : Coord κ) = c by rw [← hout], hact]
        rfl
      exact reachable_foldl action hf registrations (hc.step hs) hout'

/-- The coordinator could have come there by its own actions. -/
theorem registered_reachable [Callback κ]
    (workers : List (SfuWorkerConfig Nat)) (servers : List ServerEntry) :
    (Coordinator.machine κ).Reachable (registered workers servers) := by
  have hinit : (Coordinator.machine κ).Reachable .initial :=
    ⟨[], [], .init rfl⟩
  obtain ⟨hworkers, hout⟩ := reachable_foldl
    (fun (w : SfuWorkerConfig Nat) => .mediaWorkerConnected w.id)
    (fun c w h => ⟨rfl, h⟩) workers hinit rfl
  exact (reachable_foldl
    (fun (s : ServerEntry) => .signalingServerConnected s.id s.url)
    (fun c s h => ⟨rfl, h⟩) servers hworkers hout).1

/-! ## §7. The started application. -/

/-- A `publish` whose callbacks leave the bus alone, to its end. -/
def Application.called (app : Application κ P) (queueName : QueueTypes)
    (payload : P) : List Consumer :=
  let set := CallbackSet.queueConsumerCallbacks queueName
  let r := (app.process.enter set (.delivery payload)).drain
    ((app.process.callbacks set).elements.length + 1)
  (callsOf app.process.walks r.2).map Prod.fst

/-- **Starting.**  Media workers may be created in any order: the coordinator
has the id of each worker created so far, in that order, and is in a state
it can reach.  Until all are created nobody consumes and no server is known;
once the application has started, all configured workers and servers are
known, and a message on a queue calls the services of that queue once, those
of a kind in the order of the configuration. -/
theorem application_started [Callback κ] {past : List (Application κ P)}
    {tr : List Unit}
    (h : (startMachine κ P config).Run anyStep past app tr) :
    (Coordinator.machine κ).Reachable app.coordinator ∧
    app.coordinator.workerIds = app.created.map SfuWorkerConfig.id ∧
    (app.phase ≠ .started → app.coordinator.servers = [] ∧
      ∀ queueName payload, app.called queueName payload = []) ∧
    (app.phase = .started → app.created.Perm config.sfuWorkers ∧
      app.coordinator.servers =
        config.signalingServers.map (endpoint config.tls) ∧
      ∀ queueName payload,
        app.called queueName payload = servicesOf config queueName) := by
  have hw := Wired.run h
  have hcoord := hw.coordinator
  have hcalled : ∀ queueName payload, app.called queueName payload =
      if app.phase = .started then servicesOf config queueName else [] := by
    intro queueName payload
    exact (callsOf_drain_enter _ _ _).trans (hw.consumers queueName)
  rw [registered_eq] at hcoord
  refine ⟨?_, ?_, fun hnot => ?_, fun hstarted => ?_⟩
  · rw [hw.coordinator]
    exact registered_reachable _ _
  · rw [hcoord]
  · simp only [if_neg hnot] at hcoord hcalled
    exact ⟨by rw [hcoord], hcalled⟩
  · simp only [if_pos hstarted] at hcoord hcalled
    have hperm := hw.created
    rw [hw.all hstarted, List.append_nil] at hperm
    exact ⟨hperm, by rw [hcoord], hcalled⟩

section Clustered

/-- Two workers and two servers. -/
def clustered : AppConfig Nat :=
  ⟨"https://twolk", "development", [⟨0, 3000⟩, ⟨1, 3001⟩], "round-robin",
    "round-robin", ⟨8000⟩, none, [⟨4, ⟨10000, 11000⟩⟩, ⟨7, ⟨11001, 12000⟩⟩]⟩

/-- Before any worker is created. -/
def constructed : Application Unit Nat :=
  ⟨⟨Application.newCoordinator .new, [], 0⟩, Coord.initial, [],
    clustered.sfuWorkers, .creating⟩

/-- The second worker is created first; its requests still come second. -/
theorem application_started_clustered : ∃ app : Application Unit Nat,
    app.coordinator.workerIds = [7, 4] ∧
    app.coordinator.servers =
      [⟨0, "ws://localhost:3000"⟩, ⟨1, "ws://localhost:3001"⟩] ∧
    app.called .newRouterRequest 0 =
      [.workerOnNewRouterRequest 0, .workerOnNewRouterRequest 1] := by
  obtain ⟨past, app, tr, hr, hp⟩ := Machine.Run.exists_of_exec
    (M := startMachine Unit Nat clustered) (G := anyStep) (s := constructed)
    (l := [.created 1, .created 0, .proceed])
    (p := fun r => decide (r.2.1.phase = .started ∧
      r.2.1.created = [⟨7, ⟨11001, 12000⟩⟩, ⟨4, ⟨10000, 11000⟩⟩]))
    rfl (by decide)
  obtain ⟨hphase, hcreated⟩ := of_decide_eq_true hp
  obtain ⟨-, hworkers, -, hstarted⟩ := application_started hr
  obtain ⟨-, hservers, hcalled⟩ := hstarted hphase
  rw [hcreated] at hworkers
  exact ⟨app, hworkers, hservers, hcalled _ _⟩

end Clustered

end Twolk.App
