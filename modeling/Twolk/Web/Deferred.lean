/-
  Twolk.Web.Deferred
  ──────────────────
  **TRANSPORTS THAT WAIT FOR THE FACTORY.**

  `handleTransportParams` hands a handler to `onceReady`.  Until the device
  is loaded and an audio context assigned, the handlers are queued
  (`Waiting`); then `notifyReady` runs them in one `forEach`, which the
  first exception ends.  A handler looks up the member it was queued for:
  `this._consumerMembers.get(memberId)!` is `undefined` when the member has
  left in between.

  Main result: `deferred_created` — the queued transports are created as
  asked for exactly when the device takes all their options and nobody they
  are for has left.
-/
import Twolk.Web.Client

namespace Twolk.Web

open Twolk.Lib Signaling

variable (device : Json → Bool) {w w' : Client}

/-- The member the transport is for has a transport. -/
def TransportRequest.assigned (w : Client) : TransportRequest → Prop
  | createProducer _ => w.producerTransport.isSome
  | createConsumer _ memberId => memberId ∈ w.consumerTransports.keys

namespace Client

/-! ## §1. Nothing is created before the factory is ready. -/

/-- Every transport asked for waits, and none has been created. -/
def Waiting (w : Client) : Prop :=
  w.transportFactory.isReady = false →
    w.transportFactory.onceReadyHandlers = w.space.transports ∧
      w.created = []

/-- What the factory works on is the same. -/
structure SameFactory (w w' : Client) : Prop where
  isReady : w'.transportFactory.isReady = w.transportFactory.isReady
  handlers : w'.transportFactory.onceReadyHandlers
    = w.transportFactory.onceReadyHandlers
  transports : w'.space.transports = w.space.transports
  created : w'.created = w.created

/-- Requests go on waiting where the factory stays as it is. -/
theorem SameFactory.waiting (h : SameFactory w w') (hw : w.Waiting) :
    w'.Waiting := by
  intro hr
  rw [h.handlers, h.transports, h.created]
  exact hw (h.isReady ▸ hr)

/-- The members of a payload leave the deferred transports alone. By induction
on the payload. -/
theorem addInitial_transports (receivingMemberId : MemberId) :
    ∀ (members : List ClientSideMember) (space : Space),
      (members.foldl (Space.addInitial receivingMemberId) space).transports
        = space.transports
  | [], _ => rfl
  | member :: members, space => by
      have hfirst : (Space.addInitial receivingMemberId space
          member).transports = space.transports := by
        unfold Space.addInitial
        split <;> rfl
      exact (addInitial_transports receivingMemberId members _).trans hfirst

theorem acceptSpaceInit_factory (receivingMemberId : MemberId) (caps : Json)
    (payload : ClientSideSpace) :
    SameFactory w (w.acceptSpaceInit receivingMemberId caps payload) where
  isReady := rfl
  handlers := rfl
  transports := by
    show (w.space.handleSpaceInit _ _ _).transports = _
    unfold Space.handleSpaceInit
    split
    · rfl
    · exact addInitial_transports receivingMemberId payload.members _
  created := rfl

theorem handleMemberJoin_factory (member : ClientSideMember) :
    SameFactory w (w.handleMemberJoin member).1 := by
  unfold handleMemberJoin Space.handleMemberJoin
  split <;> exact ⟨rfl, rfl, rfl, rfl⟩

theorem handleMemberLeave_factory (memberId : MemberId) :
    SameFactory w (w.handleMemberLeave memberId).1 := by
  unfold handleMemberLeave Space.handleMemberLeave
  split <;> exact ⟨rfl, rfl, rfl, rfl⟩

theorem handleMemberStateUpdate_factory (memberId : MemberId)
    (newState : MemberState) :
    SameFactory w (w.handleMemberStateUpdate memberId newState).1 := by
  unfold handleMemberStateUpdate Space.handleMemberStateUpdate
  dsimp only
  split
  · exact ⟨rfl, rfl, rfl, rfl⟩
  · split <;> exact ⟨rfl, rfl, rfl, rfl⟩

theorem getSnapshot_factory : SameFactory w w.getSnapshot.2 := by
  unfold getSnapshot
  split
  · split <;> exact ⟨rfl, rfl, rfl, rfl⟩
  · split <;> exact ⟨rfl, rfl, rfl, rfl⟩

/-- What `handleTransportParams` asks for is what it notes down. -/
theorem transports_requestOf (space : Space) (memberId : MemberId)
    (options : Json) :
    (space.handleTransportParams memberId options).transports
      = space.transports ++ (space.requestOf memberId options).toList := by
  unfold Space.handleTransportParams Space.requestOf
  split
  · rfl
  · split
    · rfl
    · exact (List.append_nil _).symm

/-! ## §2. What a handler does. -/

/-- Handlers have run, all of them if nothing was thrown. -/
structure Ran (w : Client)
    (requests : List TransportRequest) (r : Client × Bool) : Prop where
  space : r.1.space = w.space
  factory : r.1.transportFactory = w.transportFactory
  returns : r.2 = true ↔ ∀ request ∈ requests,
    device request.options = true ∧ request.present w.space
  created : r.2 = true → r.1.created = w.created ++ requests
  assigned : r.2 = true → ∀ request, request ∈ requests ∨ request.assigned w →
    request.assigned r.1

/-- A handler creates its own transport, if the device takes the options. -/
theorem runHandler_ran (w : Client) (request : TransportRequest) :
    Ran device w [request] (w.runHandler device request) := by
  -- a device that cannot create the transport makes every handler throw
  by_cases hd : device request.options = true
  · cases request with
    | createProducer options =>
        have hd : device options = true := hd
        rw [runHandler, if_pos hd]
        refine ⟨rfl, rfl, iff_of_true rfl ?_, fun _ => rfl, fun _ => ?_⟩
        · rintro _ (_ | ⟨_, ⟨⟩⟩)
          exact ⟨hd, trivial⟩
        · rintro (options' | ⟨options', memberId⟩) h
          · rfl
          · rcases h with h | h
            · simp at h
            · exact h
    | createConsumer options memberId =>
        have hd : device options = true := hd
        rw [runHandler, if_pos hd]
        dsimp only
        -- the consumer's handler throws as well where the member has left
        by_cases hp : w.space.consumerMembers.has memberId = true
        · rw [if_pos hp]
          refine ⟨rfl, rfl, iff_of_true rfl ?_, fun _ => rfl, fun _ => ?_⟩
          · rintro _ (_ | ⟨_, ⟨⟩⟩)
            exact ⟨hd, JsMap.mem_keys.mpr hp⟩
          · rintro (options' | ⟨options', other⟩) h
            · rcases h with h | h
              · simp at h
              · exact h
            · refine JsMap.mem_keys_set.mpr ?_
              rcases h with h | h
              · cases List.mem_singleton.mp h
                exact .inl rfl
              · exact .inr h
        · rw [if_neg hp]
          refine ⟨rfl, rfl, iff_of_false Bool.false_ne_true fun h => ?_,
            (fun h => nomatch h), fun h => nomatch h⟩
          exact hp (JsMap.mem_keys.mp (h _ List.mem_cons_self).2)
  · have hthrows : w.runHandler device request = (w, false) := by
      cases request with
      | createProducer options => exact if_neg hd
      | createConsumer options memberId => exact if_neg hd
    rw [hthrows]
    refine ⟨rfl, rfl, iff_of_false Bool.false_ne_true fun h => ?_,
      (fun h => nomatch h), fun h => nomatch h⟩
    exact hd (h _ List.mem_cons_self).1

/-- The handlers of the queue run in turn. By induction on them. -/
theorem runHandlers_ran : ∀ (requests : List TransportRequest) (w : Client),
    Ran device w requests (w.runHandlers device requests)
  | [], w => by
      refine ⟨rfl, rfl, iff_of_true rfl fun _ h => absurd h List.not_mem_nil,
        fun _ => (List.append_nil _).symm, fun _ request h => ?_⟩
      exact h.resolve_left List.not_mem_nil
  | request :: requests, w => by
      have hfirst := runHandler_ran device w request
      unfold runHandlers
      split
      · rename_i w₁ heq
        rw [heq] at hfirst
        have hrest := runHandlers_ran requests w₁
        refine ⟨hrest.space.trans hfirst.space,
          hrest.factory.trans hfirst.factory, ?_, fun h => ?_,
          fun h other hin => ?_⟩
        · rw [hrest.returns, List.forall_mem_cons, hfirst.space]
          have hrequest := hfirst.returns.mp rfl request List.mem_cons_self
          exact ⟨fun h => ⟨hrequest, h⟩, fun h => h.2⟩
        · rw [hrest.created h, hfirst.created rfl, List.append_assoc]
          rfl
        · refine hrest.assigned h other ?_
          rcases hin with hin | hin
          · rcases List.mem_cons.mp hin with rfl | hin
            · exact .inr (hfirst.assigned rfl other (.inl List.mem_cons_self))
            · exact .inl hin
          · exact .inr (hfirst.assigned rfl other (.inr hin))
      · rename_i w₁ heq
        rw [heq] at hfirst
        refine ⟨hfirst.space, hfirst.factory,
          iff_of_false Bool.false_ne_true fun h => ?_,
          (fun h => nomatch h), fun h => nomatch h⟩
        refine absurd (hfirst.returns.mpr fun other hin => ?_)
          Bool.false_ne_true
        exact h other (List.mem_cons.mp hin |>.elim
          (fun heq => heq ▸ List.mem_cons_self)
          fun h => absurd h List.not_mem_nil)

/-! ## §3. Everything waits until then. -/

/-- Params that arrive before the factory is ready wait for it. -/
theorem handleTransportParams_waiting (hw : w.Waiting) (memberId : MemberId)
    (options : Json) :
    (w.handleTransportParams device memberId options).1.Waiting := by
  have htransports := transports_requestOf w.space memberId options
  unfold handleTransportParams onceReady
  dsimp only
  split
  · rename_i hnone
    rw [hnone, Option.toList_none, List.append_nil] at htransports
    intro hr
    obtain ⟨hhandlers, hcreated⟩ := hw hr
    exact ⟨hhandlers.trans htransports.symm, hcreated⟩
  · rename_i request hsome
    rw [hsome, Option.toList_some] at htransports
    split
    · rename_i hready
      intro hr
      rw [(runHandler_ran device _ request).factory, hready] at hr
      cases hr
    · intro hr
      obtain ⟨hhandlers, hcreated⟩ := hw hr
      refine ⟨?_, hcreated⟩
      show w.transportFactory.onceReadyHandlers ++ [request] = _
      rw [hhandlers, htransports]

/-- The factory stays ready, also when a handler throws. -/
theorem becomeReady_isReady (w : Client) :
    (w.becomeReady device).1.transportFactory.isReady = true := by
  have hran := runHandlers_ran device
    w.transportFactory.onceReadyHandlers { w with
      transportFactory := { w.transportFactory with isReady := true } }
  unfold becomeReady
  dsimp only
  split
  · rename_i w₁ heq
    rw [heq] at hran
    show w₁.transportFactory.isReady = true
    rw [hran.factory]
  · rename_i w₁ heq
    rw [heq] at hran
    show w₁.transportFactory.isReady = true
    rw [hran.factory]

/-- Whatever happens before the factory is ready leaves the requests waiting.
-/
theorem Change.waiting (h : Change device w w') (hw : w.Waiting) :
    w'.Waiting := by
  cases h with
  | accepted receivingMemberId caps payload =>
      exact (acceptSpaceInit_factory receivingMemberId caps payload).waiting hw
  | joined member => exact (handleMemberJoin_factory member).waiting hw
  | left memberId => exact (handleMemberLeave_factory memberId).waiting hw
  | updated memberId newState =>
      exact (handleMemberStateUpdate_factory memberId newState).waiting hw
  | transportParams memberId options =>
      exact handleTransportParams_waiting device hw memberId options
  | shown => exact getSnapshot_factory.waiting hw
  | factoryLoaded =>
      unfold Client.factoryLoaded
      dsimp only
      split
      · intro hr
        rw [becomeReady_isReady device] at hr
        cases hr
      · exact hw
  | audioContext =>
      unfold Client.assignAudioContext
      dsimp only
      split
      · intro hr
        rw [becomeReady_isReady device] at hr
        cases hr
      · exact hw
  | dropped | cleanedUp | ownState | invalidated | heard | registered =>
      exact hw

/-! ## §4. The factory becomes ready. -/

/-- What the queued handlers are for: nothing is thrown, whoever is present
gets a transport, and nobody else. -/
structure CreatesDeferred (w : Client) (r : Client × Bool) : Prop where
  returns : r.2 = true
  assigned : ∀ request ∈ w.space.transports, request.present w.space →
    request.assigned r.1
  present : ∀ request ∈ r.1.created, request.present w.space

/-- When every deferred transport is created. -/
theorem becomeReady_creates (hw : w.Waiting)
    (hr : w.transportFactory.isReady = false) :
    CreatesDeferred w (w.becomeReady device) ↔
      ∀ request ∈ w.space.transports,
        device request.options = true ∧ request.present w.space := by
  obtain ⟨hhandlers, hcreated⟩ := hw hr
  have hran := runHandlers_ran device
    w.transportFactory.onceReadyHandlers { w with
      transportFactory := { w.transportFactory with isReady := true } }
  unfold becomeReady
  dsimp only
  rw [← hhandlers]
  split
  · rename_i w₁ heq
    rw [heq] at hran
    have hall := hran.returns.mp rfl
    refine iff_of_true ⟨rfl, fun request hin _ => ?_, fun request hin => ?_⟩
      hall
    · rw [← hhandlers] at hin
      have hassigned := hran.assigned rfl request (.inl hin)
      cases request with
      | createProducer options => exact hassigned
      | createConsumer options memberId => exact hassigned
    · have hin : request ∈ w₁.created := hin
      rw [hran.created rfl, hcreated, List.nil_append] at hin
      exact (hall request hin).2
  · rename_i w₁ heq
    rw [heq] at hran
    exact iff_of_false (fun h => nomatch h.returns) fun h =>
      absurd (hran.returns.mpr h) Bool.false_ne_true

/-- The device is loaded, or the context assigned, before all else. -/
theorem unlock_eq {unlock : Client → Client × Bool}
    (hunlock : unlock ∈ [factoryLoaded device, assignAudioContext device])
    (hw : w.Waiting) (hr : w.transportFactory.isReady = false)
    (hready : (unlock w).1.transportFactory.isReady = true) :
    ∃ v : Client, v.space = w.space ∧ v.Waiting ∧
      v.transportFactory.isReady = false ∧ unlock w = v.becomeReady device := by
  rcases List.mem_cons.mp hunlock with rfl | hunlock
  · unfold factoryLoaded at hready ⊢
    dsimp only at hready ⊢
    split at hready
    · rename_i hgo
      rw [if_pos hgo]
      exact ⟨{ w with
        transportFactory := { w.transportFactory with loaded := true } },
        rfl, hw, hr, rfl⟩
    · rw [hr] at hready
      cases hready
  · cases List.mem_singleton.mp hunlock
    unfold assignAudioContext at hready ⊢
    dsimp only at hready ⊢
    split at hready
    · rename_i hgo
      rw [if_pos hgo]
      exact ⟨{ w with
        transportFactory := { w.transportFactory with audioContext := true } },
        rfl, hw, hr, rfl⟩
    · rw [hr] at hready
      cases hready

/-- Once the factory is ready a handler runs on the spot, and finds its
member. -/
theorem handleTransportParams_ready
    (hready : w.transportFactory.isReady = true) {memberId : MemberId}
    {options : Json} {request : TransportRequest}
    (hrequest : w.space.requestOf memberId options = some request) :
    (w.handleTransportParams device memberId options).2 = true ∧
        request.assigned (w.handleTransportParams device memberId options).1 ↔
      device options = true := by
  have hpresent : request.present
        (w.space.handleTransportParams memberId options) ∧
      request.options = options := by
    unfold Space.handleTransportParams
    unfold Space.requestOf at hrequest
    split at hrequest
    · cases hrequest
      exact ⟨trivial, rfl⟩
    · rename_i hother
      rw [if_neg hother]
      split at hrequest
      · rename_i hhas
        rw [if_pos hhas]
        cases hrequest
        exact ⟨JsMap.mem_keys.mpr hhas, rfl⟩
      · cases hrequest
  have hruns : w.handleTransportParams device memberId options
      = runHandler device { w with
        space := w.space.handleTransportParams memberId options } request := by
    unfold handleTransportParams onceReady
    dsimp only
    rw [hrequest]
    exact if_pos hready
  have hran := runHandler_ran device { w with
    space := w.space.handleTransportParams memberId options } request
  rw [← hruns] at hran
  rw [← hpresent.2] at hran ⊢
  constructor
  · rintro ⟨hreturns, -⟩
    exact (hran.returns.mp hreturns request List.mem_cons_self).1
  · intro hd
    have hreturns := hran.returns.mpr fun other hin => by
      cases List.mem_singleton.mp hin
      exact ⟨hd, hpresent.2.symm ▸ hpresent.1⟩
    exact ⟨hreturns,
      hran.assigned hreturns request (.inl List.mem_cons_self)⟩

end Client

/-- **When the deferred transports are created**: after any history of the
client, the moment the factory becomes ready, by its device or by an audio
context.  Transport parameters received later are acted on at once. -/
theorem deferred_created (device : Json → Bool) (producerData : MemberData)
    (muted : Bool) (history : List Op) :
    let w := (Client.initial producerData muted).runAll device history
    (∀ unlock ∈ [Client.factoryLoaded device, Client.assignAudioContext device],
      w.transportFactory.isReady = false →
      (unlock w).1.transportFactory.isReady = true →
        (Client.CreatesDeferred w (unlock w) ↔
          ∀ request ∈ w.space.transports,
            device request.options = true ∧ request.present w.space)) ∧
    (w.transportFactory.isReady = true →
      ∀ memberId options request,
        w.space.requestOf memberId options = some request →
        let r := w.handleTransportParams device memberId options
        (r.2 = true ∧ request.assigned r.1 ↔ device options = true)) := by
  intro w
  have hwaiting : w.Waiting :=
    Client.runAll_induction device (p := Client.Waiting)
      (fun _ _ h => h.waiting device) (fun _ => ⟨rfl, rfl⟩) history
  constructor
  · intro unlock hunlock hr hready
    obtain ⟨v, hspace, hv, hvr, heq⟩ :=
      Client.unlock_eq device hunlock hwaiting hr hready
    have hcreates := Client.becomeReady_creates device hv hvr
    rw [heq]
    rw [hspace] at hcreates
    refine Iff.trans ⟨fun h => ?_, fun h => ?_⟩ hcreates
    · exact ⟨h.returns, hspace ▸ h.assigned, hspace ▸ h.present⟩
    · exact ⟨h.returns, hspace ▸ h.assigned, hspace ▸ h.present⟩
  · intro hready memberId options request hrequest
    exact Client.handleTransportParams_ready device hready hrequest

section Waits

/-- Ann waits for transports for herself, Ben and Cat. -/
def annWaits : List Op :=
  [.spaceInit 0 "caps" ⟨"room", ⟨"Room", ""⟩,
    [⟨1, ⟨"Ben"⟩, ⟨false, false⟩⟩, ⟨2, ⟨"Cat"⟩, ⟨false, false⟩⟩,
      ⟨0, ⟨"Ann"⟩, ⟨false, false⟩⟩]⟩ [] [],
   .transportParams 0 "own" [] [],
   .transportParams 1 "ben" [] [],
   .transportParams 2 "cat" [] []]

/-- `initTransportFactory` loads the device. -/
def benStays : List Op := annWaits ++ [.factoryLoaded]

/-- Ben leaves before it has. -/
def benLeaves : List Op :=
  annWaits ++ [.memberLeave 1 [] [], .factoryLoaded]

/-- Ben's handler throws, after his transport has been created; Cat never
gets hers. -/
theorem deferred_throws :
    let w := (Client.initial ⟨"Ann"⟩ false).runAll (fun _ => true) benLeaves
    let r := w.assignAudioContext fun _ => true
    r.2 = false ∧
      r.1.created = [.createProducer "own", .createConsumer "ben" 1] ∧
      r.1.consumerTransports.keys = [] ∧ ¬ Client.CreatesDeferred w r := by
  intro w r
  have hthrown : r.2 = false := by decide
  refine ⟨hthrown, by decide, by decide, fun h => ?_⟩
  rw [h.returns] at hthrown
  cases hthrown

/-- Ben has not left, and every deferred transport is created. -/
theorem deferred_created_ready :
    let w := (Client.initial ⟨"Ann"⟩ false).runAll (fun _ => true) benStays
    Client.CreatesDeferred w (w.assignAudioContext fun _ => true) :=
  ((deferred_created (fun _ => true) ⟨"Ann"⟩ false benStays).1
    (Client.assignAudioContext fun _ => true)
    (List.mem_cons_of_mem _ List.mem_cons_self) (by decide)
    (by decide)).mpr (by decide)

end Waits

end Twolk.Web
