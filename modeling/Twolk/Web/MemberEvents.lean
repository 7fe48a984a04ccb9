/-
  Twolk.Web.MemberEvents
  ──────────────────────
  **SUBSCRIPTIONS TO THE EVENTS OF CONSUMER MEMBERS.**

  `space.ts` keeps the handlers given to `onConsumerMemberEvent`, and
  `member.ts` the closures each member calls.  A handler is wrapped in a
  fresh closure per member, at three places: when it is registered, when a
  member joins and when a snapshot names a member.  `offConsumerMemberEvent`
  takes yet another fresh closure off each member.

  A function of the source is an object with an identity: a closure here
  carries the number it was created under, and `offEvent` compares numbers.
  `emitEvent` calls the array it finds: neither what is pushed nor what
  `filter` leaves reaches it while it runs.  The user handlers an operation
  calls run after its loops over the closures, so what they do to the
  subscriptions in turn is a later action here.

  Main result: `subscriptions_as_set` — as long as no handler is taken off
  while members are present, an event of a present member calls the handlers
  registered, each once and with the member's id; taking one off while a
  member is present leaves it called.
-/
import Twolk.Lib.Machine
import Twolk.Web.Space

namespace Twolk.Web.MemberEvents

open Twolk.Lib Signaling

/-! ## §1. The space and its members. -/

/-- A function the user registers. -/
abbrev Handler := Nat

/-- `MemberClientEventType`. -/
inductive MemberClientEventType where
  | stateUpdated
  | transportReady
  deriving DecidableEq, Repr

/-- `(event) => handler(memberId, event)`, a function of its own. -/
structure Closure where
  ref : Nat
  handler : Handler
  memberId : MemberId
  deriving DecidableEq, Repr

/-- `handler(memberId, event)`. -/
structure Call where
  handler : Handler
  memberId : MemberId
  event : MemberClientEventType
  deriving DecidableEq, Repr

/-- The space, the handlers of the user, and the closures of its members. -/
structure Subscribed where
  space : Space
  consumerMemberEventHandlers : List Handler
  /-- `_onEvent` of the member that `_consumerMembers` has under an id. -/
  onEvent : MemberId → List Closure
  /-- The number of the next closure. -/
  nextRef : Nat

namespace Subscribed

/-- No member, and no handler. -/
def initial (producerData : MemberData) (isMuted : Bool) : Subscribed where
  space := Space.initial producerData isMuted
  consumerMemberEventHandlers := []
  onEvent := fun _ => []
  nextRef := 0

/-- `member.onEvent(..)` with a fresh closure around `handler`. -/
def memberOnEvent (w : Subscribed) (id : MemberId) (handler : Handler) :
    Subscribed :=
  { w with
    onEvent := Function.update w.onEvent id
      (w.onEvent id ++ [⟨w.nextRef, handler, id⟩])
    nextRef := w.nextRef + 1 }

/-- `member.offEvent(..)` with a fresh closure around `handler`. -/
def memberOffEvent (handler : Handler) (w : Subscribed) (id : MemberId) :
    Subscribed :=
  let closure : Closure := ⟨w.nextRef, handler, id⟩
  { w with
    onEvent := Function.update w.onEvent id
      ((w.onEvent id).filter (·.ref ≠ closure.ref))
    nextRef := w.nextRef + 1 }

/-- `new Member(..)` under an id, and the loop over the handlers that
follows it. -/
def newMember (w : Subscribed) (id : MemberId) : Subscribed :=
  w.consumerMemberEventHandlers.foldl (·.memberOnEvent id ·)
    { w with onEvent := Function.update w.onEvent id [] }

/-- `onConsumerMemberEvent(handler)`: every present member gets a closure. -/
def onConsumerMemberEvent (w : Subscribed) (handler : Handler) :
    Subscribed :=
  w.space.consumerMembers.keys.foldl (·.memberOnEvent · handler)
    { w with
      consumerMemberEventHandlers :=
        w.consumerMemberEventHandlers ++ [handler] }

/-- `offConsumerMemberEvent(handler)`: every present member is asked to drop a
closure nobody has seen. -/
def offConsumerMemberEvent (w : Subscribed) (handler : Handler) :
    Subscribed :=
  w.space.consumerMembers.keys.foldl (memberOffEvent handler)
    { w with
      consumerMemberEventHandlers :=
        w.consumerMemberEventHandlers.filter (· ≠ handler) }

/-- `handleMemberJoin(member)`. -/
def handleMemberJoin (w : Subscribed) (member : ClientSideMember) :
    Subscribed :=
  let w' := { w with space := w.space.handleMemberJoin member }
  if w.space.consumerMembers.has member.id ∨
      w.space.producerMemberId = some member.id then w'
  else w'.newMember member.id

/-- The `forEach` of `handleSpaceInit`. -/
def addInitial (receivingMemberId : MemberId) (w : Subscribed)
    (member : ClientSideMember) : Subscribed :=
  let w' := { w with space := w.space.addInitial receivingMemberId member }
  if member.id = receivingMemberId then w' else w'.newMember member.id

/-- `handleSpaceInit(..)`, once for each connection. -/
def handleSpaceInit (w : Subscribed) (receivingMemberId : MemberId)
    (routerRtpCapabilities : Json) (clientSideSpace : ClientSideSpace) :
    Subscribed :=
  -- a second snapshot is ignored
  if w.space.spaceInitReceived then w
  else
    -- each member it shows is added with its handlers wrapped
    let w := clientSideSpace.members.foldl (addInitial receivingMemberId)
      { w with
        space :=
          { w.space with
            producerMemberId := some receivingMemberId
            uuid := some clientSideSpace.uuid
            data := some clientSideSpace.data } }
    { w with
      space :=
        { w.space with
          spaceInitReceived := true
          routerRtpCapabilities := some routerRtpCapabilities } }

/-- `emitEvent` of the member under an id. -/
def emitEvent (w : Subscribed) (id : MemberId)
    (event : MemberClientEventType) : List Call :=
  (w.onEvent id).map fun c => ⟨c.handler, c.memberId, event⟩

/-- One event of the channel. -/
def receive (w : Subscribed) : ServerToClientEvent → Subscribed
  | .spaceInit receivingMemberId routerRtpCapabilities clientSideSpace =>
      w.handleSpaceInit receivingMemberId routerRtpCapabilities
        clientSideSpace
  | .memberJoin member => w.handleMemberJoin member
  | event => { w with space := w.space.receive event }

/-- The calls one event of the channel makes: `updateState` emits. -/
def receiveCalls (w : Subscribed) : ServerToClientEvent → List Call
  | .memberStateUpdate memberId _ =>
      if w.space.producerMemberId = some memberId then []
      else if w.space.consumerMembers.has memberId then
        w.emitEvent memberId .stateUpdated
      else []
  | _ => []

/-- `onSocketDisconnected`, `onSocketFailed` or `cleanup`. -/
def disconnected (w : Subscribed) : Subscribed :=
  { w with space := { w.space with spaceInitReceived := false } }

end Subscribed

/-- What can happen next. -/
inductive Action where
  | onConsumerMemberEvent (handler : Handler)
  | offConsumerMemberEvent (handler : Handler)
  | receive (event : ServerToClientEvent)
  /-- The transport of a consumer member is ready. -/
  | transportReady (memberId : MemberId)
  | disconnected

/-- The space and its subscribers as a machine. -/
def machine (producerData : MemberData) (isMuted : Bool) :
    Machine Subscribed Action Call where
  init w := w = Subscribed.initial producerData isMuted
  step w
    | .onConsumerMemberEvent handler =>
        some (w.onConsumerMemberEvent handler, [])
    | .offConsumerMemberEvent handler =>
        some (w.offConsumerMemberEvent handler, [])
    | .receive event => some (w.receive event, w.receiveCalls event)
    -- raised through the handlers of a member who is present
    | .transportReady memberId =>
        if w.space.consumerMembers.has memberId then
          some (w, w.emitEvent memberId .transportReady)
        else none
    | .disconnected => some (w.disconnected, [])

/-- A handler is registered at most once at a time. -/
def registersOnce (w : Subscribed) : Action → Prop
  | .onConsumerMemberEvent handler =>
      handler ∉ w.consumerMemberEventHandlers
  | _ => True

/-- A registered handler is taken off while no member is present. -/
def offWithoutMembers (w : Subscribed) : Action → Prop
  | .offConsumerMemberEvent handler =>
      handler ∈ w.consumerMemberEventHandlers →
        w.space.consumerMembers.keys = []
  | _ => True

/-- The guard: handlers are registered once at a time, and taken off while
nobody is present. -/
def unwraps : Guard Subscribed Action Call := fun _ w a =>
  registersOnce w a ∧ offWithoutMembers w a

instance (w : Subscribed) : ∀ a, Decidable (registersOnce w a)
  | .onConsumerMemberEvent handler => inferInstanceAs
      (Decidable (handler ∉ w.consumerMemberEventHandlers))
  | .offConsumerMemberEvent _ | .receive _ | .transportReady _
  | .disconnected => .isTrue trivial

instance (w : Subscribed) : ∀ a, Decidable (offWithoutMembers w a)
  | .offConsumerMemberEvent handler => inferInstanceAs (Decidable
      (handler ∈ w.consumerMemberEventHandlers →
        w.space.consumerMembers.keys = []))
  | .onConsumerMemberEvent _ | .receive _ | .transportReady _
  | .disconnected => .isTrue trivial

instance (tr : List Call) (w : Subscribed) (a : Action) :
    Decidable (unwraps tr w a) :=
  inferInstanceAs (Decidable (_ ∧ _))

/-- The handlers registered by the calls of a log. -/
def subscribe (handlers : List Handler) : Action → List Handler
  | .onConsumerMemberEvent handler => handlers ++ [handler]
  | .offConsumerMemberEvent handler => handlers.filter (· ≠ handler)
  | _ => handlers

/-- The handlers registered at the end of a log. -/
def registered (log : List Action) : List Handler := log.foldl subscribe []

theorem registered_append (log : List Action) (a : Action) :
    registered (log ++ [a]) = subscribe (registered log) a := by
  unfold registered
  rw [List.foldl_append]
  rfl

/-! ## §2. Closures. -/

namespace Subscribed

/-- The calls wrapped by the closures of a member. -/
def wrapped (w : Subscribed) (id : MemberId) : List (Handler × MemberId) :=
  (w.onEvent id).map fun c => (c.handler, c.memberId)

/-- Closures have been created under earlier numbers. -/
def Fresh (w : Subscribed) : Prop :=
  ∀ id, ∀ c ∈ w.onEvent id, c.ref < w.nextRef

/-- Each present member wraps the handlers, in order. -/
structure Wraps (w : Subscribed) : Prop where
  fresh : w.Fresh
  wrapped : ∀ id, w.space.consumerMembers.has id = true →
    w.wrapped id = w.consumerMemberEventHandlers.map (·, id)

variable {w : Subscribed} {id id' : MemberId} {handler : Handler}

/-- The new closure comes last, at its own member. -/
theorem wrapped_memberOnEvent :
    (w.memberOnEvent id handler).wrapped id' = if id' = id then
      w.wrapped id ++ [(handler, id)] else w.wrapped id' := by
  unfold wrapped memberOnEvent
  dsimp only
  rw [Function.update_apply]
  split
  · rw [List.map_append]
    rfl
  · rfl

theorem Fresh.memberOnEvent (h : w.Fresh) :
    (w.memberOnEvent id handler).Fresh := by
  intro id' c hc
  show c.ref < w.nextRef + 1
  unfold Subscribed.memberOnEvent at hc
  dsimp only at hc
  rw [Function.update_apply] at hc
  split at hc
  · rcases List.mem_append.mp hc with hc | hc
    · exact Nat.lt_succ_of_lt (h id c hc)
    · rw [List.mem_singleton.mp hc]
      exact Nat.lt_succ_self _
  · exact Nat.lt_succ_of_lt (h id' c hc)

/-- A fresh closure is not among those of a member. -/
theorem Fresh.onEvent_memberOffEvent (h : w.Fresh) :
    (memberOffEvent handler w id).onEvent = w.onEvent := by
  funext id'
  unfold memberOffEvent
  dsimp only
  rw [Function.update_apply]
  split
  · rename_i heq
    rw [heq, List.filter_eq_self]
    intro c hc
    have hlt := h id c hc
    simp only [decide_eq_true_eq]
    omega
  · rfl

theorem Fresh.memberOffEvent (h : w.Fresh) :
    (memberOffEvent handler w id).Fresh := by
  intro id' c hc
  rw [h.onEvent_memberOffEvent] at hc
  exact Nat.lt_succ_of_lt (h id' c hc)

/-! ## §3. The three places that wrap, and the one that does not unwrap. -/

/-- One member, the handlers in turn.  By induction on the handlers. -/
theorem foldl_handlers (id : MemberId) :
    ∀ (l : List Handler) (w : Subscribed), w.Fresh →
    let w' := l.foldl (·.memberOnEvent id ·) w
    w'.space = w.space ∧
    w'.consumerMemberEventHandlers = w.consumerMemberEventHandlers ∧
    w'.Fresh ∧ (w'.wrapped id = w.wrapped id ++ l.map (·, id)) ∧
    ∀ id', id' ≠ id → w'.wrapped id' = w.wrapped id'
  | [], w, hf => ⟨rfl, rfl, hf, (List.append_nil _).symm, fun _ _ => rfl⟩
  | handler :: l, w, hf => by
      obtain ⟨hs, hh, hf', hid, hrest⟩ := foldl_handlers id l
        (w.memberOnEvent id handler) hf.memberOnEvent
      refine ⟨hs, hh, hf', ?_, fun id' hne => ?_⟩
      · refine hid.trans ?_
        rw [wrapped_memberOnEvent, if_pos rfl, List.append_assoc]
        rfl
      · refine (hrest id' hne).trans ?_
        rw [wrapped_memberOnEvent, if_neg hne]

/-- One handler, the members in turn.  By induction on the members. -/
theorem foldl_members (handler : Handler) :
    ∀ (l : List MemberId) (w : Subscribed), l.Nodup → w.Fresh →
    let w' := l.foldl (·.memberOnEvent · handler) w
    w'.space = w.space ∧
    w'.consumerMemberEventHandlers = w.consumerMemberEventHandlers ∧
    w'.Fresh ∧ ∀ id, w'.wrapped id =
      if id ∈ l then w.wrapped id ++ [(handler, id)] else w.wrapped id
  | [], w, _, hf => ⟨rfl, rfl, hf, fun id => by simp⟩
  | id :: l, w, hl, hf => by
      rw [List.nodup_cons] at hl
      obtain ⟨hs, hh, hf', hall⟩ := foldl_members handler l
        (w.memberOnEvent id handler) hl.2 hf.memberOnEvent
      refine ⟨hs, hh, hf', fun id' => ?_⟩
      refine (hall id').trans ?_
      rw [wrapped_memberOnEvent]
      by_cases heq : id' = id
      · subst heq
        rw [if_neg hl.1, if_pos rfl, if_pos List.mem_cons_self]
      · rw [if_neg heq]
        simp only [List.mem_cons, heq, false_or]

/-- Taking a handler off, the members in turn.  By induction on the
members. -/
theorem foldl_memberOffEvent (handler : Handler) :
    ∀ (l : List MemberId) (w : Subscribed), w.Fresh →
    let w' := l.foldl (memberOffEvent handler) w
    w'.space = w.space ∧
    w'.consumerMemberEventHandlers = w.consumerMemberEventHandlers ∧
    w'.Fresh ∧ w'.onEvent = w.onEvent
  | [], w, hf => ⟨rfl, rfl, hf, rfl⟩
  | id :: l, w, hf => by
      obtain ⟨hs, hh, hf', hall⟩ := foldl_memberOffEvent handler l
        (memberOffEvent handler w id) hf.memberOffEvent
      exact ⟨hs, hh, hf', hall.trans hf.onEvent_memberOffEvent⟩

/-- The handler is forgotten. -/
theorem Fresh.off_handlers (h : w.Fresh) (handler : Handler) :
    (w.offConsumerMemberEvent handler).consumerMemberEventHandlers
      = w.consumerMemberEventHandlers.filter (· ≠ handler) :=
  (foldl_memberOffEvent handler w.space.consumerMembers.keys
    { w with
      consumerMemberEventHandlers :=
        w.consumerMemberEventHandlers.filter (· ≠ handler) } h).2.1

theorem present_of_eq {space space' : Space} (hs : space' = space)
    (hin : space'.consumerMembers.has id = true) :
    space.consumerMembers.has id = true := by
  rw [← hs]
  exact hin

/-- Where no member is added, those present go on wrapping the handlers. -/
theorem Wraps.space (h : w.Wraps) {space : Space}
    (hsub : ∀ id, space.consumerMembers.has id = true →
      w.space.consumerMembers.has id = true) :
    { w with space := space }.Wraps :=
  ⟨h.fresh, fun id hid => h.wrapped id (hsub id hid)⟩

/-- A member that is added wraps them too. -/
theorem Wraps.newMember (h : w.Wraps) {space : Space}
    (hsub : ∀ id', space.consumerMembers.has id' = true → id' = id ∨
      w.space.consumerMembers.has id' = true) :
    ({ w with space := space }.newMember id).Wraps ∧
    ({ w with space := space }.newMember id).consumerMemberEventHandlers
      = w.consumerMemberEventHandlers := by
  have hempty : Subscribed.Fresh
      { w with
        space := space
        onEvent := Function.update w.onEvent id [] } := by
    intro id' c hc
    dsimp only at hc
    rw [Function.update_apply] at hc
    split at hc
    · exact absurd hc List.not_mem_nil
    · exact h.fresh id' c hc
  obtain ⟨hs, hh, hf, hid, hrest⟩ := foldl_handlers id
    w.consumerMemberEventHandlers _ hempty
  refine ⟨⟨hf, fun id' hin => ?_⟩, hh⟩
  have hin : space.consumerMembers.has id' = true := present_of_eq hs hin
  refine Eq.trans ?_ (congrArg (List.map (·, id')) hh.symm)
  by_cases heq : id' = id
  · subst heq
    refine hid.trans ?_
    unfold Subscribed.wrapped
    dsimp only
    rw [Function.update_self]
    rfl
  · refine (hrest id' heq).trans ?_
    have hold := h.wrapped id' ((hsub id' hin).resolve_left heq)
    unfold Subscribed.wrapped at hold ⊢
    dsimp only
    rw [Function.update_of_ne heq]
    exact hold

theorem Wraps.onConsumerMemberEvent (h : w.Wraps) (handler : Handler) :
    (w.onConsumerMemberEvent handler).Wraps ∧
    (w.onConsumerMemberEvent handler).consumerMemberEventHandlers
      = w.consumerMemberEventHandlers ++ [handler] := by
  obtain ⟨hs, hh, hf, hall⟩ := foldl_members handler
    w.space.consumerMembers.keys
    { w with
      consumerMemberEventHandlers :=
        w.consumerMemberEventHandlers ++ [handler] }
    w.space.consumerMembers.keys_nodup h.fresh
  refine ⟨⟨hf, fun id hin => ?_⟩, hh⟩
  have hin : w.space.consumerMembers.has id = true := present_of_eq hs hin
  have hmem := JsMap.has_eq_true_iff_mem.mp hin
  refine (hall id).trans ?_
  rw [if_pos hmem]
  refine Eq.trans ?_ (congrArg (List.map (·, id)) hh.symm)
  rw [List.map_append]
  exact congrArg (· ++ [(handler, id)]) (h.wrapped id hin)

/-- A handler is taken off that is not registered, or while no member is
present. -/
theorem Wraps.offConsumerMemberEvent (h : w.Wraps)
    (hoff : handler ∈ w.consumerMemberEventHandlers →
      w.space.consumerMembers.keys = []) :
    (w.offConsumerMemberEvent handler).Wraps := by
  obtain ⟨hs, hh, hf, hall⟩ := foldl_memberOffEvent handler
    w.space.consumerMembers.keys
    { w with
      consumerMemberEventHandlers :=
        w.consumerMemberEventHandlers.filter (· ≠ handler) } h.fresh
  refine ⟨hf, fun id hin => ?_⟩
  have hin : w.space.consumerMembers.has id = true := present_of_eq hs hin
  have hnot : handler ∉ w.consumerMemberEventHandlers := by
    intro hreg
    have hmem := JsMap.has_eq_true_iff_mem.mp hin
    rw [hoff hreg] at hmem
    exact absurd hmem List.not_mem_nil
  have hsame : w.consumerMemberEventHandlers.filter (· ≠ handler)
      = w.consumerMemberEventHandlers := by
    rw [List.filter_eq_self]
    intro x hx
    simp only [decide_eq_true_eq]
    intro heq
    exact hnot (heq ▸ hx)
  refine Eq.trans ?_ (congrArg (List.map (·, id)) (hh.trans hsame).symm)
  refine Eq.trans ?_ (h.wrapped id hin)
  exact congrArg (fun f : MemberId → List Closure => (f id).map _) hall

/-! ## §5. The events of the channel. -/

/-- Loops over closures leave the view of `space.ts` alone. -/
theorem foldl_space {α : Type} {f : Subscribed → α → Subscribed}
    (hf : ∀ w x, (f w x).space = w.space) :
    ∀ (l : List α) (w : Subscribed), (l.foldl f w).space = w.space
  | [], _ => rfl
  | x :: l, w => (foldl_space hf l (f w x)).trans (hf w x)

theorem newMember_space (w : Subscribed) (id : MemberId) :
    (w.newMember id).space = w.space :=
  foldl_space (f := (·.memberOnEvent id ·)) (fun _ _ => rfl) _ _

theorem onConsumerMemberEvent_space (w : Subscribed) (handler : Handler) :
    (w.onConsumerMemberEvent handler).space = w.space :=
  foldl_space (f := (·.memberOnEvent · handler)) (fun _ _ => rfl) _ _

theorem offConsumerMemberEvent_space (w : Subscribed) (handler : Handler) :
    (w.offConsumerMemberEvent handler).space = w.space :=
  foldl_space (f := memberOffEvent handler) (fun _ _ => rfl) _ _

theorem addInitial_space (w : Subscribed) (m : MemberId)
    (member : ClientSideMember) :
    (w.addInitial m member).space = w.space.addInitial m member := by
  unfold addInitial
  dsimp only
  split
  · rfl
  · exact newMember_space _ _

theorem foldl_addInitial_space (m : MemberId) :
    ∀ (l : List ClientSideMember) (w : Subscribed),
      (l.foldl (addInitial m) w).space = l.foldl (Space.addInitial m) w.space
  | [], _ => rfl
  | member :: l, w => by
      refine (foldl_addInitial_space m l _).trans ?_
      rw [addInitial_space]
      rfl

/-- An event of the channel does to the view what it does in `space.ts`. -/
theorem receive_space (w : Subscribed) (event : ServerToClientEvent) :
    (w.receive event).space = w.space.receive event := by
  cases event with
  | spaceInit m caps space =>
      show (w.handleSpaceInit m caps space).space
        = w.space.handleSpaceInit m caps space
      unfold handleSpaceInit Space.handleSpaceInit
      split
      · rfl
      · dsimp only
        rw [foldl_addInitial_space]
  | memberJoin member =>
      show (w.handleMemberJoin member).space = w.space.handleMemberJoin member
      unfold handleMemberJoin
      dsimp only
      split
      · rfl
      · exact newMember_space _ _
  | _ => rfl

theorem has_set {members : JsMap MemberId Member} {v : Member}
    (h : (members.set id v).has id' = true) :
    id' = id ∨ members.has id' = true := by
  rw [JsMap.has_eq_true_iff_mem, JsMap.mem_keys_set] at h
  exact h.imp_right JsMap.has_eq_true_iff_mem.mpr

/-- A new member wraps the handlers. -/
theorem Wraps.handleMemberJoin (h : w.Wraps) (member : ClientSideMember) :
    (w.handleMemberJoin member).Wraps ∧
    (w.handleMemberJoin member).consumerMemberEventHandlers
      = w.consumerMemberEventHandlers := by
  unfold Subscribed.handleMemberJoin Space.handleMemberJoin
  dsimp only
  split
  · exact ⟨h.space fun _ hin => hin, rfl⟩
  · exact h.newMember fun id' hin => has_set hin

theorem Wraps.addInitial (h : w.Wraps) (m : MemberId)
    (member : ClientSideMember) :
    (w.addInitial m member).Wraps ∧
    (w.addInitial m member).consumerMemberEventHandlers
      = w.consumerMemberEventHandlers := by
  unfold Subscribed.addInitial Space.addInitial
  dsimp only
  split
  · exact ⟨h.space fun _ hin => hin, rfl⟩
  · exact h.newMember fun id' hin => has_set hin

/-- The members of a snapshot in turn.  By induction on the members. -/
theorem Wraps.foldl_addInitial (m : MemberId) :
    ∀ (l : List ClientSideMember) {w : Subscribed}, w.Wraps →
      (l.foldl (Subscribed.addInitial m) w).Wraps ∧
      (l.foldl (Subscribed.addInitial m) w).consumerMemberEventHandlers
        = w.consumerMemberEventHandlers
  | [], _, h => ⟨h, rfl⟩
  | member :: l, _, h => by
      obtain ⟨hfirst, hsame⟩ := h.addInitial m member
      obtain ⟨hrest, hsame'⟩ := Wraps.foldl_addInitial m l hfirst
      exact ⟨hrest, hsame'.trans hsame⟩

/-- So do the members of a snapshot. -/
theorem Wraps.handleSpaceInit (h : w.Wraps) (m : MemberId) (caps : Json)
    (space : ClientSideSpace) :
    (w.handleSpaceInit m caps space).Wraps ∧
    (w.handleSpaceInit m caps space).consumerMemberEventHandlers
      = w.consumerMemberEventHandlers := by
  unfold Subscribed.handleSpaceInit
  split
  · exact ⟨h, rfl⟩
  · have hstart : Subscribed.Wraps
        { w with
          space :=
            { w.space with
              producerMemberId := some m
              uuid := some space.uuid
              data := some space.data } } := h.space fun _ hin => hin
    obtain ⟨hw, hh⟩ := Wraps.foldl_addInitial m space.members hstart
    exact ⟨hw.space fun _ hin => hin, hh⟩

/-- The other events add no member. -/
theorem has_of_receive {space : Space} {event : ServerToClientEvent}
    (hinit : ∀ m caps s, event ≠ .spaceInit m caps s)
    (hjoin : ∀ member, event ≠ .memberJoin member)
    (hin : (space.receive event).consumerMembers.has id = true) :
    space.consumerMembers.has id = true := by
  cases event with
  | spaceInit m caps s => exact absurd rfl (hinit m caps s)
  | memberJoin member => exact absurd rfl (hjoin member)
  | memberLeave memberId =>
      unfold Space.receive Space.handleMemberLeave at hin
      dsimp only at hin
      split at hin
      · rw [JsMap.has_eq_true_iff_mem, JsMap.mem_keys_delete] at hin
        exact JsMap.has_eq_true_iff_mem.mpr hin.2
      · exact hin
  | memberStateUpdate memberId newState =>
      unfold Space.receive Space.handleMemberStateUpdate at hin
      dsimp only at hin
      split at hin
      · exact hin
      · split at hin
        · rw [JsMap.has, JsMap.get?_modify] at hin
          rw [JsMap.has]
          split at hin
          · rename_i heq
            rw [heq]
            simpa using hin
          · exact hin
        · exact hin
  | transportParams memberId options =>
      unfold Space.receive Space.handleTransportParams at hin
      dsimp only at hin
      split at hin
      · exact hin
      · split at hin <;> exact hin
  | _ => exact hin

/-- So after any event of the channel. -/
theorem Wraps.receive (h : w.Wraps) (event : ServerToClientEvent) :
    (w.receive event).Wraps ∧
    (w.receive event).consumerMemberEventHandlers
      = w.consumerMemberEventHandlers := by
  cases event with
  | spaceInit m caps space => exact h.handleSpaceInit m caps space
  | memberJoin member => exact h.handleMemberJoin member
  | _ =>
      exact ⟨h.space fun _ hin => has_of_receive (by simp) (by simp) hin,
        rfl⟩

end Subscribed

/-! ## §6. Runs. -/

/-- The handlers are those registered, each once, and the members wrap
them. -/
structure Follows (w : Subscribed) (log : List Action) : Prop where
  handlers : w.consumerMemberEventHandlers = registered log
  nodup : (registered log).Nodup
  wraps : w.Wraps

/-- Whatever happens, by its kind: the members go on wrapping the handlers. -/
theorem step_follows {producerData : MemberData} {isMuted : Bool}
    {w w' : Subscribed} {log : List Action} {a : Action} {tr obs : List Call}
    (hf : Follows w log) (hg : unwraps tr w a)
    (hs : (machine producerData isMuted).step w a = some (w', obs)) :
    Follows w' (log ++ [a]) := by
  obtain ⟨hh, hn, hw⟩ := hf
  -- a step that leaves the handlers
  have hkeep : ∀ {v : Subscribed}, v.Wraps →
      v.consumerMemberEventHandlers = w.consumerMemberEventHandlers →
      subscribe (registered log) a = registered log →
      Follows v (log ++ [a]) := by
    intro v hv hsame ha
    have hlog := (registered_append log a).trans ha
    exact ⟨hsame.trans (hh.trans hlog.symm), hlog ▸ hn, hv⟩
  cases a with
  | onConsumerMemberEvent handler =>
      cases hs
      obtain ⟨hw', hh'⟩ := hw.onConsumerMemberEvent handler
      have hnot : handler ∉ w.consumerMemberEventHandlers := hg.1
      rw [hh] at hh' hnot
      have hlog := registered_append log (.onConsumerMemberEvent handler)
      refine ⟨hh'.trans hlog.symm, ?_, hw'⟩
      rw [hlog]
      refine List.nodup_append.mpr ⟨hn, List.nodup_singleton _, ?_⟩
      intro x hx y hy heq
      rw [heq, List.mem_singleton.mp hy] at hx
      exact hnot hx
  | offConsumerMemberEvent handler =>
      cases hs
      have hlog := registered_append log (.offConsumerMemberEvent handler)
      refine ⟨?_, ?_, hw.offConsumerMemberEvent hg.2⟩
      · rw [hlog, hw.fresh.off_handlers, hh]
        rfl
      · rw [hlog]
        exact hn.filter _
  | receive event =>
      cases hs
      obtain ⟨hw', hh'⟩ := hw.receive event
      exact hkeep hw' hh' rfl
  | transportReady memberId =>
      simp only [machine] at hs
      split at hs
      · cases hs
        exact hkeep hw rfl rfl
      · cases hs
  | disconnected =>
      cases hs
      exact hkeep (hw.space fun _ hin => hin) rfl rfl

variable {producerData : MemberData} {isMuted : Bool}
  {past : List (Subscribed × List Action)} {s : Subscribed × List Action}
  {tr : List Call}

/-- A recorded run. -/
abbrev Recorded (producerData : MemberData) (isMuted : Bool)
    (G : Guard Subscribed Action Call)
    (past : List (Subscribed × List Action)) (s : Subscribed × List Action)
    (tr : List Call) : Prop :=
  (machine producerData isMuted).recorded.Run (Machine.unrecorded G) past s tr

/-- **In every guarded run** the members wrap the handlers registered. -/
theorem run_follows (h : Recorded producerData isMuted unwraps past s tr) :
    Follows s.1 s.2 := by
  refine Machine.Run.recorded_invariant (fun w log _ => Follows w log)
    (fun w hw => ?_) (fun w log tr a w' obs _ hf hg hs => ?_) h
  · have hw : w = Subscribed.initial producerData isMuted := hw
    rw [hw]
    refine ⟨rfl, List.nodup_nil, fun id c hc => ?_, fun id hin => ?_⟩
    · exact absurd hc List.not_mem_nil
    · cases hin
  · exact step_follows hf hg hs

/-- What an action does to the view of `space.ts`, whoever has subscribed. -/
def viewed (view : Space) : Action → Space
  | .receive event => view.receive event
  | .disconnected => { view with spaceInitReceived := false }
  | .onConsumerMemberEvent _ | .offConsumerMemberEvent _
  | .transportReady _ => view

/-- One action does to the view what it does in `space.ts`. -/
theorem step_space {w w' : Subscribed} {a : Action} {obs : List Call}
    (hs : (machine producerData isMuted).step w a = some (w', obs)) :
    w'.space = viewed w.space a := by
  cases a with
  | onConsumerMemberEvent handler =>
      cases hs
      exact w.onConsumerMemberEvent_space handler
  | offConsumerMemberEvent handler =>
      cases hs
      exact w.offConsumerMemberEvent_space handler
  | receive event =>
      cases hs
      exact w.receive_space event
  | transportReady memberId =>
      simp only [machine] at hs
      split at hs
      · cases hs
        rfl
      · cases hs
  | disconnected =>
      cases hs
      rfl

/-- **The members who are present** are those of `space.ts`: in every run the
view is what the events received so far make of it. -/
theorem run_space (h : Recorded producerData isMuted anyStep past s tr) :
    s.1.space = s.2.foldl viewed (Space.initial producerData isMuted) := by
  refine Machine.Run.recorded_invariant
    (fun w log _ =>
      w.space = log.foldl viewed (Space.initial producerData isMuted))
    (fun w hw => ?_) (fun w log tr a w' obs _ hI _ hs => ?_) h
  · have hw : w = Subscribed.initial producerData isMuted := hw
    rw [hw]
    rfl
  · rw [List.foldl_append, step_space hs, hI]
    rfl

/-- A guard for the claim's own premise. -/
def once : Guard Subscribed Action Call := fun _ w a => registersOnce w a

instance (tr : List Call) (w : Subscribed) (a : Action) :
    Decidable (once tr w a) := inferInstanceAs (Decidable (registersOnce w a))

end Twolk.Web.MemberEvents
