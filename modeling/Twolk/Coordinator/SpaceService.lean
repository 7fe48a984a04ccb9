/-
  Twolk.Coordinator.SpaceService
  ──────────────────────────────
  `space-service.ts` and `subscription-driven-policy.ts`: space records,
  subscriptions and lifecycle transitions.

  `applyTransition` reads the status before an `await` and writes it after;
  the two halves are `applyTransition` and the continuations `resumeRunning`
  and `resumeEnded`.
-/
import Twolk.Coordinator.RouterAllocator

namespace Twolk.Coordinator

open Twolk.Lib

/-! ## §1. The lifecycle policy. -/

namespace SpaceLifecyclePolicy

/-- `SubscriptionDrivenPolicy._shouldEnd`. -/
def shouldEnd (currentStatus : SpaceStatus)
    (subscriberCount memberCount : Nat) : Option SpaceStatus :=
  if currentStatus = .running ∧ subscriberCount = 0 ∧ memberCount = 0 then
    some .ended
  else none

/-- The first subscription starts the space. -/
def onSubscribe : SpaceLifecyclePolicy → SpaceStatus → Nat → Nat →
    Option SpaceStatus
  | .subscriptionDriven, currentStatus, _, _ =>
      if currentStatus = .initialized then some .running else none

/-- An unsubscription may end it. -/
def onUnsubscribe : SpaceLifecyclePolicy → SpaceStatus → Nat → Nat →
    Option SpaceStatus
  | .subscriptionDriven, currentStatus, subscriberCount, memberCount =>
      shouldEnd currentStatus subscriberCount memberCount

/-- A member who has left may end it. -/
def onMemberLeft : SpaceLifecyclePolicy → SpaceStatus → Nat → Nat →
    Option SpaceStatus
  | .subscriptionDriven, currentStatus, subscriberCount, memberCount =>
      shouldEnd currentStatus subscriberCount memberCount

end SpaceLifecyclePolicy

/-- `defaultPolicyFactory`. -/
def defaultPolicyFactory (type : String) :
    Except String SpaceLifecyclePolicy :=
  if type = "subscription-driven" then .ok .subscriptionDriven
  else .error ("unknown space lifecycle policy type: " ++ type)

namespace SpaceService

variable {κ : Type}

/-! ## §2. Subscriptions. -/

/-- `hasSubscribers(uuid)`. -/
def hasSubscribers (c : Coord κ) (uuid : Uuid) : Bool :=
  c.spaceToSubscribedMap.has uuid

/-- `isSubscribed(serverId, uuid)`. -/
def isSubscribed (c : Coord κ) (serverId : ServerId) (uuid : Uuid) : Bool :=
  match c.spaceSubscriptions.get? serverId with
  | none => false
  | some uuids => uuids.has uuid

/-- Remove `v` from the set under `k`, and the set when it becomes empty. -/
def removeFrom {A B : Type} [DecidableEq A] [DecidableEq B]
    (map : JsMap A (JsSet B)) (k : A) (v : B) : JsMap A (JsSet B) :=
  match map.get? k with
  | none => map
  | some set =>
      if (set.delete v).size = 0 then map.delete k
      else map.set k (set.delete v)

/-- `subscribe(serverId, uuid)`. -/
def subscribe (c : Coord κ) (serverId : ServerId) (uuid : Uuid) : Coord κ :=
  { c with
    spaceSubscriptions := c.spaceSubscriptions.addTo serverId uuid
    spaceToSubscribedMap := c.spaceToSubscribedMap.addTo uuid serverId }

/-- `unsubscribe(serverId, uuid)`. -/
def unsubscribe (c : Coord κ) (serverId : ServerId) (uuid : Uuid) : Coord κ :=
  { c with
    spaceSubscriptions := removeFrom c.spaceSubscriptions serverId uuid
    spaceToSubscribedMap := removeFrom c.spaceToSubscribedMap uuid serverId }

/-- `this.spaceToSubscribedMap.get(uuid)?.size ?? 0`. -/
def subscriberCount (c : Coord κ) (uuid : Uuid) : Nat :=
  ((c.spaceToSubscribedMap.get? uuid).map JsMap.size).getD 0

/-! ## §3. Lifecycle transitions. -/

/-- The promise of `applyTransition` is settled. -/
def settle (c : Coord κ) (k : AfterTransition κ)
    (result : Except String Unit) : Coord κ :=
  match k with
  | .memberLeft => c
  | k => c.defer (.transitioned k result)

/-- `space.status = status`. -/
def setStatus (c : Coord κ) (uuid : Uuid) (status : SpaceStatus) : Coord κ :=
  { c with spaces := c.spaces.modify uuid fun s => { s with status } }

/-- The rest of `applyTransition(space, "running")` after its `await`. -/
def resumeRunning (c : Coord κ) (uuid : Uuid) (k : AfterTransition κ) :
    Coord κ :=
  settle (setStatus c uuid .running) k (.ok ())

/-- `space.policy.onEnded(..)`, `space.status = "ended"`. -/
def endSpace (c : Coord κ) (uuid : Uuid) (k : AfterTransition κ) : Coord κ :=
  settle (setStatus (c.emit (.onEnded uuid)) uuid .ended) k (.ok ())

/-- The rest of `applyTransition(space, "ended")` after its `await`. -/
def resumeEnded (c : Coord κ) (uuid : Uuid) (k : AfterTransition κ) :
    Coord κ :=
  endSpace { c with
    spaces := c.spaces.modify uuid fun s => { s with primaryRouter := none }
    out := c.out ++ [.routerCleared uuid] } uuid k

/-- `applyTransition(space, dest)` up to its first `await`. -/
def applyTransition (c : Coord κ) (uuid : Uuid) (space : Space)
    (dest : SpaceStatus) (k : AfterTransition κ) : Coord κ :=
  -- the status is read here, before the `await`, and not again after it
  if space.status = dest then settle c k (.ok ())
  else if dest = .running ∧ space.status = .initialized then
    RouterAllocator.allocate c uuid space (.transition uuid k)
  else if dest = .ended ∧ space.status = .running then
    match space.primaryRouter with
    | some router => (RouterAllocator.remove c router).defer
        (.routerRemoved uuid k)
    -- no router to wait for: the space ends in this stretch
    | none => endSpace c uuid k
  -- an invalid transition is logged and ignored
  else settle c k (.ok ())

/-- Carry out what a policy hook asked for, or resolve at once. -/
def transitionPromise (c : Coord κ) (uuid : Uuid) (space : Space)
    (desiredStatus : Option SpaceStatus) (k : AfterTransition κ) : Coord κ :=
  match desiredStatus with
  | some dest => applyTransition c uuid space dest k
  | none => settle c k (.ok ())

/-- `notifyMemberLeft(uuid)`. -/
def notifyMemberLeft (c : Coord κ) (uuid : Uuid) : Coord κ :=
  match c.spaces.get? uuid with
  | none => c
  | some space =>
      transitionPromise c uuid space
        (space.policy.onMemberLeft space.status (subscriberCount c uuid)
          space.members.size) .memberLeft

/-! ## §4. Request handlers. -/

section Handlers

variable [Callback κ]

/-- `onCreateSpaceRequest`; `uuid` is the value of `randomUUID()`. -/
def onCreateSpaceRequest (c : Coord κ) (uuid : Uuid) (data : SpaceData)
    (policyType : String) (cb : κ) : Coord κ :=
  match defaultPolicyFactory policyType with
  -- `create` throws, and the request gets no answer
  | .error e => c.emit (.thrown e)
  | .ok policy =>
      let space : Space :=
        { status := .initialized, policy, primaryRouter := none, data,
          members := ∅ }
      { c with spaces := c.spaces.set uuid space }.ackSync cb
        (.createSpace uuid)

/-- `onReadSpaceRequest`. -/
def onReadSpaceRequest (c : Coord κ) (uuid : Uuid) (cb : κ) : Coord κ :=
  match c.spaces.get? uuid with
  | none => c.nackSync cb "space not found"
  | some space => c.ackSync cb (.readSpace space.data space.status)

/-- `onSubscribeToSpaceRequest` up to the transition promise. -/
def onSubscribeToSpaceRequest (c : Coord κ) (serverId : ServerId)
    (uuid : Uuid) (cb : κ) : Coord κ :=
  match c.spaces.get? uuid with
  | none => c.nackSync cb "space not found"
  | some space =>
      if space.status ≠ .initialized ∧ space.status ≠ .running then
        c.nackSync cb "space is not joinable"
      else
        transitionPromise c uuid space
          (space.policy.onSubscribe space.status (subscriberCount c uuid)
            space.members.size) (.subscribe serverId uuid cb)

/-- The members a subscribing server mirrors, deep-copied. -/
def clientSideMembers (c : Coord κ) (space : Space) :
    List ClientSideMember :=
  space.members.keys.filterMap fun id =>
    (c.memberHeap.get? id).map fun m => ⟨id, m.data, m.state⟩

/-- The `.then` body of `onSubscribeToSpaceRequest`. -/
def resumeSubscribe (c : Coord κ) (serverId : ServerId) (uuid : Uuid)
    (cb : κ) : Coord κ :=
  match c.spaces.get? uuid with
  | none => c
  | some space =>
      -- the router may have gone while the transition was under way
      match space.primaryRouter.bind fun r =>
          (c.routerHeap.get? r).bind Router.rtpCapabilities with
      | none => c.nackThen cb "space router not allocated yet"
      | some rtpCapabilities =>
          (subscribe c serverId uuid).ackThen cb
            (.subscribeToSpace
              ⟨uuid, space.data, clientSideMembers c space⟩ rtpCapabilities)
            id

/-- `onUnsubscribeFromSpaceRequest` up to the transition promise. -/
def onUnsubscribeFromSpaceRequest (c : Coord κ) (serverId : ServerId)
    (uuid : Uuid) (cb : κ) : Coord κ :=
  match c.spaces.get? uuid with
  | none => c.nackSync cb "space not found"
  | some space =>
      -- whether the server was subscribed is not checked
      let c := unsubscribe c serverId uuid
      transitionPromise c uuid space
        (space.policy.onUnsubscribe space.status (subscriberCount c uuid)
          space.members.size) (.unsubscribe cb)

/-- What follows the promise of `applyTransition`. -/
def resumeTransitioned (c : Coord κ) :
    AfterTransition κ → Except String Unit → Coord κ
  | .subscribe serverId uuid cb, .ok _ => resumeSubscribe c serverId uuid cb
  | .subscribe _ _ cb, .error e => c.nackCatch cb e
  | .unsubscribe cb, .ok _ => c.ackThen cb .void id
  | .unsubscribe cb, .error e => c.nackCatch cb e
  -- `notifyMemberLeft` only logs a failed transition
  | .memberLeft, _ => c

end Handlers

end SpaceService

end Twolk.Coordinator
