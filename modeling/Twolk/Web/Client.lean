/-
  Twolk.Web.Client
  ────────────────
  **THE CLIENT'S `Space` OBJECT.**

  `Twolk.Web.Space` is what a client knows of its space; here is the object
  around it: the snapshot cache and its subscribers (`space.ts`), and the
  transport factory with the handlers that wait for it (`transport.ts`).

  User handlers run inside the operations, and may call the object again.
  So an operation carries what its handlers do in turn, as lists of
  operations: quantifying over operations quantifies over all handlers that
  return.  Whether the mediasoup device creates a transport with some
  options, or throws, is the parameter `device`.

  Main result: `reconnect_resyncs_iff` — a snapshot taken in after a
  reconnect is what the client then shows exactly when nobody known from
  before is missing in it.
-/
import Twolk.Web.Space

namespace Twolk.Web

open Twolk.Lib Signaling

/-! ## §1. The object. -/

/-- `SpaceSnapshot`, the producing member first. -/
structure SpaceSnapshot where
  uuid : Option Uuid
  data : Option SpaceData
  members : List (Option MemberId × Member)
  producer : Option MemberId
  deriving DecidableEq

/-- A callback registered with `subscribeSnapshotUpdates`. -/
abbrev CallbackId := Nat

/-- A connection has a snapshot, or is over. -/
inductive Mark where
  /-- `handleSpaceInit` takes a payload in. -/
  | accepted
  /-- A disconnect, a failure or a cleanup. -/
  | dropped
  deriving DecidableEq

/-- The transport factory: what makes it ready, and the requests that wait for
it. -/
structure TransportFactory where
  /-- `_mediasoupDevice.loaded`. -/
  loaded : Bool
  /-- An audio context is assigned. -/
  audioContext : Bool
  isReady : Bool
  onceReadyHandlers : List TransportRequest

/-- The client's space, with its cached snapshot and its subscribers. -/
structure Client where
  space : Space
  /-- The cached object, with its identity. -/
  cachedSnapshot : Option (Nat × SpaceSnapshot)
  snapshotCacheValid : Bool
  snapshotRefGen : Nat
  snapshotUpdateCallbacks : List CallbackId
  /-- The connected, disconnected and failed handlers are set. -/
  userHandlers : Bool
  transportFactory : TransportFactory
  producerTransport : Option Json
  /-- `_transport` of the consumer members that have one. -/
  consumerTransports : JsMap MemberId Json
  -- what was observed, in order
  created : List TransportRequest
  marks : List Mark
  heard : List (CallbackId × Option SpaceSnapshot)

namespace TransportRequest

/-- The options that came with the request. -/
def options : TransportRequest → Json
  | createProducer options => options
  | createConsumer options _ => options

/-- The member the transport is for is known. -/
def present (space : Space) : TransportRequest → Prop
  | createProducer _ => True
  | createConsumer _ memberId => memberId ∈ space.consumerMembers.keys

instance (space : Space) : ∀ request, Decidable (present space request)
  | createProducer _ => .isTrue trivial
  | createConsumer _ memberId =>
      inferInstanceAs (Decidable (memberId ∈ space.consumerMembers.keys))

end TransportRequest

/-- What `handleTransportParams` asks the factory for. -/
def Space.requestOf (space : Space) (memberId : MemberId) (options : Json) :
    Option TransportRequest :=
  if space.producerMemberId = some memberId then
    some (.createProducer options)
  else if space.consumerMembers.has memberId then
    some (.createConsumer options memberId)
  else none

/-- `_producerMember.updateState(newState)`. -/
def Space.updateProducerState (space : Space) (newState : MemberStateUpdate) :
    Space :=
  { space with
    producerMember := { space.producerMember with
      state := space.producerMember.state.merge newState } }

/-- The snapshot computed from the space. -/
def Space.fresh (space : Space) : SpaceSnapshot where
  uuid := space.uuid
  data := space.data
  members := (space.producerMemberId, space.producerMember) ::
    space.consumerMembers.entries.map fun e => (some e.1, e.2)
  producer := space.producerMemberId

namespace Client

/-- `new Space(producerData, producerState, socket)` and `init(..)`. -/
def initial (producerData : MemberData) (isMuted : Bool) : Client where
  space := .initial producerData isMuted
  cachedSnapshot := none
  snapshotCacheValid := false
  snapshotRefGen := 0
  snapshotUpdateCallbacks := []
  userHandlers := true
  transportFactory := ⟨false, false, false, []⟩
  producerTransport := none
  consumerTransports := ∅
  created := []
  marks := []
  heard := []

/-! ## §2. Snapshots. -/

/-- `getSnapshot()`: what it returns, and the object after it. -/
def getSnapshot (w : Client) : Option (Nat × SpaceSnapshot) × Client :=
  if w.space.spaceInitReceived then
    -- the same object as long as nothing has changed
    if w.snapshotCacheValid then (w.cachedSnapshot, w)
    else
      -- a new object, which is a new reference for React
      let snapshot := some (w.snapshotRefGen, w.space.fresh)
      (snapshot, { w with
        cachedSnapshot := snapshot
        snapshotCacheValid := true
        snapshotRefGen := w.snapshotRefGen + 1 })
  -- nothing is shown before `spaceInit`, and the cache is emptied
  else if w.snapshotCacheValid then
    (none, { w with cachedSnapshot := none, snapshotCacheValid := false })
  else (none, w)

/-- The content of what `getSnapshot()` would return. -/
def value (w : Client) : Option SpaceSnapshot :=
  w.getSnapshot.1.map Prod.snd

/-- A callback is called. -/
def hear (w : Client) (callback : CallbackId) : Client :=
  { w with heard := w.heard ++ [(callback, w.value)] }

/-- `_snapshotCacheValid = false`. -/
def invalidate (w : Client) : Client :=
  { w with snapshotCacheValid := false }

/-- `_spaceInitReceived = false`. -/
def drop (w : Client) : Client :=
  { w with
    space := { w.space with spaceInitReceived := false }
    marks := w.marks ++ [.dropped] }

/-- `cleanup()`; the socket stops delivering. -/
def cleanup (w : Client) : Client :=
  { w.drop with
    userHandlers := false
    cachedSnapshot := none
    snapshotCacheValid := false }

/-! ## §3. Transports. -/

section Factory

variable (device : Json → Bool)

/-- A handler given to `onceReady` runs; `false` when it throws.  A member
who has left is not found when its transport has been created. -/
def runHandler (w : Client) : TransportRequest → Client × Bool
  | .createProducer options =>
      -- a device that cannot create the transport throws
      if device options then
        ({ w with
          created := w.created ++ [.createProducer options]
          producerTransport := some options }, true)
      else (w, false)
  | .createConsumer options memberId =>
      if device options then
        let w := { w with
          created := w.created ++
            [TransportRequest.createConsumer options memberId] }
        -- the member may have left while the request was deferred
        if w.space.consumerMembers.has memberId then
          ({ w with
            consumerTransports := w.consumerTransports.set memberId options },
            true)
        else (w, false)
      else (w, false)

/-- `transportFactory.onceReady(handler)`. -/
def onceReady (w : Client) (request : TransportRequest) : Client × Bool :=
  if w.transportFactory.isReady then w.runHandler device request
  else
    ({ w with
      transportFactory := { w.transportFactory with
        onceReadyHandlers :=
          w.transportFactory.onceReadyHandlers ++ [request] } }, true)

/-- The `forEach` of `notifyReady`: what throws ends it. -/
def runHandlers (w : Client) : List TransportRequest → Client × Bool
  | [] => (w, true)
  | request :: requests =>
      match w.runHandler device request with
      | (w, true) => runHandlers w requests
      | (w, false) => (w, false)

/-- `_isReady = true`, `notifyReady()`; `false` when it throws. -/
def becomeReady (w : Client) : Client × Bool :=
  let w := { w with
    transportFactory := { w.transportFactory with isReady := true } }
  match w.runHandlers device w.transportFactory.onceReadyHandlers with
  | (w, true) => ({ w with
      transportFactory := { w.transportFactory with onceReadyHandlers := [] }
      }, true)
  | (w, false) => (w, false)

/-- The rest of `TransportFactory.init` once the device is loaded. -/
def factoryLoaded (w : Client) : Client × Bool :=
  let w := { w with
    transportFactory := { w.transportFactory with loaded := true } }
  if !w.transportFactory.isReady && w.transportFactory.audioContext then
    w.becomeReady device
  else (w, true)

/-- `assignAudioContext` with a running context. -/
def assignAudioContext (w : Client) : Client × Bool :=
  let w := { w with
    transportFactory := { w.transportFactory with audioContext := true } }
  if !w.transportFactory.isReady && w.transportFactory.loaded then
    w.becomeReady device
  else (w, true)

/-- `handleTransportParams` up to the user handlers; `false` when they are
not reached. -/
def handleTransportParams (w : Client) (memberId : MemberId)
    (options : Json) : Client × Bool :=
  let request := w.space.requestOf memberId options
  let w := { w with space := w.space.handleTransportParams memberId options }
  match request with
  | none => (w, false)
  | some request => w.onceReady device request

end Factory

/-! ## §4. Members. -/

/-- `handleSpaceInit` for the first snapshot of a connection, up to the user
handlers; the member objects of the payload are new. -/
def acceptSpaceInit (w : Client) (receivingMemberId : MemberId)
    (routerRtpCapabilities : Json) (clientSideSpace : ClientSideSpace) :
    Client :=
  { w with
    space := w.space.handleSpaceInit receivingMemberId routerRtpCapabilities
      clientSideSpace
    consumerTransports := clientSideSpace.members.foldl (fun t member =>
      if member.id = receivingMemberId then t else t.delete member.id)
        w.consumerTransports
    marks := w.marks ++ [.accepted] }

/-- `handleMemberJoin` up to the user handlers. -/
def handleMemberJoin (w : Client) (member : ClientSideMember) :
    Client × Bool :=
  if w.space.consumerMembers.has member.id ∨
      w.space.producerMemberId = some member.id then
    ({ w with space := w.space.handleMemberJoin member }, false)
  else
    ({ w with
      space := w.space.handleMemberJoin member
      consumerTransports := w.consumerTransports.delete member.id }, true)

/-- `handleMemberLeave` up to the user handlers. -/
def handleMemberLeave (w : Client) (memberId : MemberId) : Client × Bool :=
  if w.space.consumerMembers.has memberId then
    ({ w with
      space := w.space.handleMemberLeave memberId
      consumerTransports := w.consumerTransports.delete memberId }, true)
  else ({ w with space := w.space.handleMemberLeave memberId }, false)

/-- `handleMemberStateUpdate` up to the member's event handlers. -/
def handleMemberStateUpdate (w : Client) (memberId : MemberId)
    (newState : MemberState) : Client × Bool :=
  ({ w with space := w.space.handleMemberStateUpdate memberId newState },
    w.space.producerMemberId = some memberId ∨
      w.space.consumerMembers.has memberId)

end Client

/-! ## §5. Operations. -/

/-- What happens to the object: socket events, calls of the application.
`events`, `handlers` and `callbacks` are what the handlers called on the way
do in turn, the latter one list for each snapshot callback. -/
inductive Op where
  | socketConnected (handlers : List Op)
  | socketDisconnected (handlers : List Op)
  | socketFailed (handlers : List Op)
  | spaceInit (receivingMemberId : MemberId) (routerRtpCapabilities : Json)
      (clientSideSpace : ClientSideSpace) (handlers : List Op)
      (callbacks : List (List Op))
  | memberJoin (member : ClientSideMember) (handlers : List Op)
      (callbacks : List (List Op))
  | memberLeave (memberId : MemberId) (handlers : List Op)
      (callbacks : List (List Op))
  | memberStateUpdate (memberId : MemberId) (newState : MemberState)
      (events handlers : List Op) (callbacks : List (List Op))
  | transportParams (memberId : MemberId) (options : Json)
      (handlers : List Op) (callbacks : List (List Op))
  | spaceClose (callbacks : List (List Op)) (handlers : List Op)
  | updateProducerMemberState (isMuted : Option Bool) (events : List Op)
      (callbacks : List (List Op))
  | cleanup
  | getSnapshot
  | subscribeSnapshotUpdates (callback : CallbackId)
  | unsubscribeSnapshotUpdates (callback : CallbackId)
  | factoryLoaded
  | assignAudioContext

namespace Client

variable (device : Json → Bool)

mutual

/-- One operation. -/
def run (w : Client) : Op → Client
  | .socketConnected handlers =>
      if w.userHandlers then runAll w handlers else w
  | .socketDisconnected handlers =>
      -- then it reconnects
      if w.userHandlers then runAll w.drop handlers else w.drop
  | .socketFailed handlers =>
      if w.userHandlers then (runAll w.drop handlers).cleanup else w.drop
  | .spaceInit receivingMemberId routerRtpCapabilities clientSideSpace
      handlers callbacks =>
      if w.space.spaceInitReceived then w
      else
        let w := runAll (w.acceptSpaceInit receivingMemberId
          routerRtpCapabilities clientSideSpace) handlers
        notifyEach w.invalidate w.snapshotUpdateCallbacks callbacks
  | .memberJoin member handlers callbacks =>
      match w.handleMemberJoin member with
      | (w, false) => w
      | (w, true) =>
          let w := runAll w handlers
          notifyEach w.invalidate w.snapshotUpdateCallbacks callbacks
  | .memberLeave memberId handlers callbacks =>
      match w.handleMemberLeave memberId with
      | (w, false) => w
      | (w, true) =>
          let w := runAll w handlers
          notifyEach w.invalidate w.snapshotUpdateCallbacks callbacks
  | .memberStateUpdate memberId newState events handlers callbacks =>
      match w.handleMemberStateUpdate memberId newState with
      | (w, false) => w
      | (w, true) =>
          let w := runAll (runAll w events) handlers
          notifyEach w.invalidate w.snapshotUpdateCallbacks callbacks
  | .transportParams memberId options handlers callbacks =>
      match w.handleTransportParams device memberId options with
      | (w, false) => w
      | (w, true) =>
          let w := runAll w handlers
          notifyEach w.invalidate w.snapshotUpdateCallbacks callbacks
  | .spaceClose callbacks handlers =>
      runAll (notifyEach w.cleanup.invalidate w.snapshotUpdateCallbacks
        callbacks) handlers
  | .updateProducerMemberState isMuted events callbacks =>
      let w := runAll { w with
        space := w.space.updateProducerState ⟨isMuted, none⟩ } events
      notifyEach w.invalidate w.snapshotUpdateCallbacks callbacks
  | .cleanup => w.cleanup
  | .getSnapshot => w.getSnapshot.2
  | .subscribeSnapshotUpdates callback =>
      { w with
        snapshotUpdateCallbacks := w.snapshotUpdateCallbacks ++ [callback] }
  | .unsubscribeSnapshotUpdates callback =>
      { w with
        snapshotUpdateCallbacks :=
          w.snapshotUpdateCallbacks.filter (· ≠ callback) }
  | .factoryLoaded => (w.factoryLoaded device).1
  | .assignAudioContext => (w.assignAudioContext device).1

/-- Operations one after the other. -/
def runAll (w : Client) : List Op → Client
  | [] => w
  | op :: ops => runAll (run w op) ops

/-- The `forEach` of `notifySnapshotUpdate` over the callbacks registered at
its start. -/
def notifyEach (w : Client) (registered : List CallbackId) :
    List (List Op) → Client
  | [] => registered.foldl hear w
  | ops :: callbacks =>
      match registered with
      | [] => w
      | callback :: registered =>
          notifyEach (runAll (w.hear callback) ops) registered callbacks

end

/-! ## §6. Single changes. -/

/-- A change an operation consists of. -/
inductive Change (w : Client) : Client → Prop
  | dropped : Change w w.drop
  | cleanedUp : Change w w.cleanup
  | accepted (receivingMemberId : MemberId) (caps : Json)
      (payload : ClientSideSpace) (hnew : w.space.spaceInitReceived = false) :
      Change w (w.acceptSpaceInit receivingMemberId caps payload)
  | joined (member : ClientSideMember) :
      Change w (w.handleMemberJoin member).1
  | left (memberId : MemberId) : Change w (w.handleMemberLeave memberId).1
  | updated (memberId : MemberId) (newState : MemberState) :
      Change w (w.handleMemberStateUpdate memberId newState).1
  | transportParams (memberId : MemberId) (options : Json) :
      Change w (w.handleTransportParams device memberId options).1
  | ownState (newState : MemberStateUpdate) :
      Change w { w with space := w.space.updateProducerState newState }
  | invalidated : Change w w.invalidate
  | heard (callback : CallbackId) : Change w (w.hear callback)
  | shown : Change w w.getSnapshot.2
  | registered (snapshotUpdateCallbacks : List CallbackId) :
      Change w { w with snapshotUpdateCallbacks }
  | factoryLoaded : Change w (w.factoryLoaded device).1
  | audioContext : Change w (w.assignAudioContext device).1

/-- Some changes, one after the other. -/
abbrev Changes : Client → Client → Prop :=
  Relation.ReflTransGen (Change device)

theorem foldl_hear_changes (w : Client) :
    ∀ registered : List CallbackId,
      Changes device w (registered.foldl hear w)
  | [] => .refl
  | callback :: registered =>
      .head (.heard callback) (foldl_hear_changes _ registered)

mutual

/-- An operation is a sequence of changes, by induction on it. -/
theorem run_changes (w : Client) :
    ∀ op : Op, Changes device w (w.run device op)
  -- by recursion on the operation, together with the lists in it
  | .socketConnected handlers => by
      unfold run
      split
      · exact runAll_changes w handlers
      · exact .refl
  | .socketDisconnected handlers => by
      unfold run
      -- what is shown is dropped first, then the handlers run
      split
      · exact .head .dropped (runAll_changes _ handlers)
      · exact .single .dropped
  | .socketFailed handlers => by
      unfold run
      split
      · exact .tail (.head .dropped (runAll_changes _ handlers)) .cleanedUp
      · exact .single .dropped
  | .spaceInit receivingMemberId caps payload handlers callbacks => by
      unfold run
      split
      -- a second snapshot changes nothing
      · exact .refl
      · rename_i hnew
        have hstep : Change device w (w.acceptSpaceInit receivingMemberId
            caps payload) := .accepted _ _ _ ((Bool.not_eq_true _).mp hnew)
        exact .trans (.head hstep (runAll_changes _ handlers))
          (.head .invalidated (notifyEach_changes _ _ callbacks))
  | .memberJoin member handlers callbacks => by
      have hstep : Change device w (w.handleMemberJoin member).1 :=
        .joined member
      -- an event that is refused stops after its own change
      unfold run
      split
      · rename_i w' heq
        rw [heq] at hstep
        exact .single hstep
      · rename_i w' heq
        rw [heq] at hstep
        exact .trans (.head hstep (runAll_changes _ handlers))
          (.head .invalidated (notifyEach_changes _ _ callbacks))
  | .memberLeave memberId handlers callbacks => by
      have hstep : Change device w (w.handleMemberLeave memberId).1 :=
        .left memberId
      unfold run
      split
      · rename_i w' heq
        rw [heq] at hstep
        exact .single hstep
      · rename_i w' heq
        rw [heq] at hstep
        exact .trans (.head hstep (runAll_changes _ handlers))
          (.head .invalidated (notifyEach_changes _ _ callbacks))
  | .memberStateUpdate memberId newState events handlers callbacks => by
      have hstep : Change device w
          (w.handleMemberStateUpdate memberId newState).1 := .updated _ _
      unfold run
      split
      · rename_i w' heq
        rw [heq] at hstep
        exact .single hstep
      · rename_i w' heq
        rw [heq] at hstep
        have hevents := (Relation.ReflTransGen.single hstep).trans
          (runAll_changes w' events)
        exact (hevents.trans (runAll_changes _ handlers)).trans
          (.head .invalidated (notifyEach_changes _ _ callbacks))
  | .transportParams memberId options handlers callbacks => by
      have hstep : Change device w
          (w.handleTransportParams device memberId options).1 :=
        .transportParams _ _
      unfold run
      split
      · rename_i w' heq
        rw [heq] at hstep
        exact .single hstep
      · rename_i w' heq
        rw [heq] at hstep
        exact .trans (.head hstep (runAll_changes _ handlers))
          (.head .invalidated (notifyEach_changes _ _ callbacks))
  | .spaceClose callbacks handlers => by
      unfold run
      -- the cleanup comes before the subscribers are told
      refine .trans ?_ (runAll_changes _ handlers)
      exact .head .cleanedUp
        (.head .invalidated (notifyEach_changes _ _ callbacks))
  | .updateProducerMemberState isMuted events callbacks => by
      unfold run
      exact .trans (.head (.ownState _) (runAll_changes _ events))
        (.head .invalidated (notifyEach_changes _ _ callbacks))
  | .cleanup => by
      unfold run
      exact .single .cleanedUp
  | .getSnapshot => by
      unfold run
      exact .single .shown
  | .subscribeSnapshotUpdates callback => by
      unfold run
      exact .single (.registered _)
  | .unsubscribeSnapshotUpdates callback => by
      unfold run
      exact .single (.registered _)
  | .factoryLoaded => by
      unfold run
      exact .single .factoryLoaded
  | .assignAudioContext => by
      unfold run
      exact .single .audioContext

theorem runAll_changes (w : Client) :
    ∀ ops : List Op, Changes device w (w.runAll device ops)
  | [] => by
      unfold runAll
      exact .refl
  | op :: ops => by
      unfold runAll
      exact (run_changes w op).trans (runAll_changes _ ops)

/-- By induction on the callbacks, with all they call in turn. -/
theorem notifyEach_changes (w : Client) (registered : List CallbackId) :
    ∀ callbacks : List (List Op),
      Changes device w (w.notifyEach device registered callbacks)
  | [] => by
      unfold notifyEach
      exact foldl_hear_changes device w registered
  | ops :: callbacks => by
      unfold notifyEach
      split
      · exact .refl
      · rename_i callback registered
        exact .trans (.head (.heard callback) (runAll_changes _ ops))
          (notifyEach_changes _ registered callbacks)

end

/-- What every change keeps, every operation keeps. -/
theorem runAll_induction {p : Client → Prop}
    (hkept : ∀ w w', Change device w w' → p w → p w')
    {w : Client} (hw : p w) (ops : List Op) : p (w.runAll device ops) := by
  generalize hw' : w.runAll device ops = w'
  have h : Changes device w w' := hw' ▸ runAll_changes device w ops
  clear hw'
  induction h with
  | refl => exact hw
  | tail _ hchange ih => exact hkept _ _ hchange ih

end Client

/-! ## §7. Resynchronisation. -/

namespace Space

variable {m : MemberId}

/-- The consumer members are those of the payload, with its data and
states. -/
def Resynced (w : Space) (receivingMemberId : MemberId)
    (payload : ClientSideSpace) : Prop :=
  (∀ id, id ∈ w.consumerMembers.keys ↔
    id ≠ receivingMemberId ∧ ∃ member ∈ payload.members, member.id = id) ∧
  ∀ id shown, w.consumerMembers.get? id = some shown →
    ∃ member ∈ payload.members, member.id = id ∧
      shown = ⟨member.data, member.state⟩

/-- What a payload says about a consumer member replaces what was known;
of the others nothing changes.  By induction on the payload. -/
theorem addInitial_members : ∀ (l : List ClientSideMember) (w : Space)
    (id : MemberId),
    ((∀ member ∈ l, member.id = id → id = m) ∧
      (l.foldl (addInitial m) w).consumerMembers.get? id
        = w.consumerMembers.get? id) ∨
    (id ≠ m ∧ ∃ member ∈ l, member.id = id ∧
      (l.foldl (addInitial m) w).consumerMembers.get? id
        = some ⟨member.data, member.state⟩)
  | [], w, id => .inl ⟨fun _ h => absurd h List.not_mem_nil, rfl⟩
  | e :: l, w, id => by
      have hfirst : (addInitial m w e).consumerMembers.get? id
          = if id = e.id ∧ e.id ≠ m then some ⟨e.data, e.state⟩
            else w.consumerMembers.get? id := by
        unfold addInitial
        by_cases hself : e.id = m
        · rw [if_pos hself, if_neg fun hn => hn.2 hself]
        · rw [if_neg hself]
          dsimp only
          rw [JsMap.get?_set]
          by_cases heq : id = e.id
          · rw [if_pos heq, if_pos ⟨heq, hself⟩]
          · rw [if_neg heq, if_neg fun hn => heq hn.1]
      rcases addInitial_members l (addInitial m w e) id with
        ⟨hnot, hget⟩ | ⟨hne, member, hin, hid, hget⟩
      · by_cases he : id = e.id ∧ e.id ≠ m
        · rw [hfirst, if_pos he] at hget
          refine .inr ⟨he.1 ▸ he.2, e, List.mem_cons_self, he.1.symm, hget⟩
        · rw [hfirst, if_neg he] at hget
          refine .inl ⟨fun member hin hid => ?_, hget⟩
          rcases List.mem_cons.mp hin with rfl | hin
          · by_contra hne
            exact he ⟨hid.symm, hid ▸ hne⟩
          · exact hnot member hin hid
      · exact .inr ⟨hne, member, List.mem_cons_of_mem e hin, hid, hget⟩

/-- **When a snapshot resynchronises the client.**  Nothing is taken out, so
whoever is known from before has to be in the payload. -/
theorem resynced_iff (w : Space) (hnew : w.spaceInitReceived = false)
    (receivingMemberId : MemberId) (caps : Json)
    (payload : ClientSideSpace) :
    (w.handleSpaceInit receivingMemberId caps payload).Resynced
        receivingMemberId payload ↔
      ∀ id ∈ w.consumerMembers.keys, id ≠ receivingMemberId ∧
        ∃ member ∈ payload.members, member.id = id := by
  have hmembers : ∀ id, (w.handleSpaceInit receivingMemberId caps
      payload).consumerMembers.get? id
        = (payload.members.foldl (addInitial receivingMemberId)
          { w with
            producerMemberId := some receivingMemberId
            uuid := some payload.uuid
            data := some payload.data }).consumerMembers.get? id := by
    intro id
    unfold handleSpaceInit
    rw [if_neg (by rw [hnew]; exact Bool.false_ne_true)]
  -- each member is as before, or as the payload shows it
  have hcases := fun id => addInitial_members (m := receivingMemberId)
    payload.members { w with
      producerMemberId := some receivingMemberId
      uuid := some payload.uuid
      data := some payload.data } id
  constructor
  · -- somebody known from before is still there
    intro h id hin
    refine (h.1 id).mp ?_
    rw [JsMap.mem_keys, hmembers]
    rcases hcases id with ⟨-, hget⟩ | ⟨-, member, -, -, hget⟩
    · rw [hget]
      exact JsMap.mem_keys.mp hin
    · rw [hget]
      simp
  -- those who were known are in the payload, so nobody is left over
  · intro h
    have hshown : ∀ id shown, (w.handleSpaceInit receivingMemberId caps
        payload).consumerMembers.get? id = some shown →
        id ≠ receivingMemberId ∧ ∃ member ∈ payload.members,
          member.id = id ∧ shown = ⟨member.data, member.state⟩ := by
      intro id shown hs
      rw [hmembers] at hs
      rcases hcases id with ⟨hnot, hget⟩ | ⟨hne, member, hin, hid, hget⟩
      · rw [hget] at hs
        obtain ⟨hne, member, hin, hid⟩ := h id (JsMap.mem_keys_of_get? hs)
        exact absurd (hnot member hin hid) hne
      · rw [hget] at hs
        cases hs
        exact ⟨hne, member, hin, hid, rfl⟩
    refine ⟨fun id => ⟨fun hin => ?_, ?_⟩, fun id shown hs =>
      (hshown id shown hs).2⟩
    · obtain ⟨shown, hs⟩ :=
        Option.isSome_iff_exists.mp (JsMap.mem_keys.mp hin)
      obtain ⟨hne, member, hmem, hid, -⟩ := hshown id shown hs
      exact ⟨hne, member, hmem, hid⟩
    · rintro ⟨hne, member, hmem, hid⟩
      rw [JsMap.mem_keys, hmembers]
      rcases hcases id with ⟨hnot, -⟩ | ⟨-, member', -, -, hget⟩
      · exact absurd (hnot member hmem hid) hne
      · rw [hget]
        simp

end Space

/-- **A reconnect resynchronises exactly when nobody has left**, whatever
happened to the client before. -/
theorem reconnect_resyncs_iff (device : Json → Bool)
    (producerData : MemberData) (muted : Bool) (history : List Op)
    (receivingMemberId : MemberId) (caps : Json) (payload : ClientSideSpace) :
    let w := (Client.initial producerData muted).runAll device history
    w.space.spaceInitReceived = false →
      ((w.acceptSpaceInit receivingMemberId caps payload).space.Resynced
          receivingMemberId payload ↔
        ∀ id ∈ w.space.consumerMembers.keys, id ≠ receivingMemberId ∧
          ∃ member ∈ payload.members, member.id = id) :=
  fun hnew => Space.resynced_iff _ hnew receivingMemberId caps payload

section Reconnect

/-- Ann meets Ben, and loses the connection. -/
def annDisconnected : List Op :=
  [.spaceInit 0 "caps" ⟨"room", ⟨"Room", ""⟩,
    [⟨1, ⟨"Ben"⟩, ⟨false, false⟩⟩, ⟨0, ⟨"Ann"⟩, ⟨false, false⟩⟩]⟩ [] [],
   .socketDisconnected []]

/-- What the server sends her when she is back. -/
def annAlone : ClientSideSpace :=
  ⟨"room", ⟨"Room", ""⟩, [⟨2, ⟨"Ann"⟩, ⟨false, false⟩⟩]⟩

/-- A snapshot with Ben and Ann in it. -/
def annWithBen : ClientSideSpace :=
  ⟨"room", ⟨"Room", ""⟩,
    [⟨1, ⟨"Ben"⟩, ⟨true, false⟩⟩, ⟨2, ⟨"Ann"⟩, ⟨false, false⟩⟩]⟩

/-- Ben has left in between, and is still shown. -/
theorem reconnect_shows_stale :
    let w := (Client.initial ⟨"Ann"⟩ false).runAll (fun _ => true)
      annDisconnected
    w.space.spaceInitReceived = false ∧
      (w.acceptSpaceInit 2 "caps" annAlone).space.consumerMembers.keys = [1] ∧
      ¬ (w.acceptSpaceInit 2 "caps" annAlone).space.Resynced 2 annAlone := by
  intro w
  have hkeys : (w.acceptSpaceInit 2 "caps"
      annAlone).space.consumerMembers.keys = [1] := by decide
  refine ⟨by decide, hkeys, fun h => ?_⟩
  have hin := (h.1 1).mp (by rw [hkeys]; exact List.mem_cons_self)
  exact absurd hin.2 (by decide)

/-- Ben has not left. -/
theorem reconnect_resyncs_iff_present :
    let w := (Client.initial ⟨"Ann"⟩ false).runAll (fun _ => true)
      annDisconnected
    (w.acceptSpaceInit 2 "caps" annWithBen).space.Resynced 2 annWithBen :=
  (reconnect_resyncs_iff (fun _ => true) ⟨"Ann"⟩ false annDisconnected 2
    "caps" annWithBen (by decide)).mpr (by decide)

end Reconnect

end Twolk.Web
