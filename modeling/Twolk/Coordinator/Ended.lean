/-
  Twolk.Coordinator.Ended
  ───────────────────────
  **AN ENDED SPACE IS EMPTY.**

  The policy ends a space that has neither subscribers nor members.  The
  counts are taken when the last of them leaves; the status is written after
  an `await`, and a subscribe or an add that was accepted before completes
  in a continuation of its own.  One that completes in between finds its
  server, or its member, in an ended space (`ends_subscribed`).

  What holds: if the space is still empty when the continuation that ends it
  runs, and neither a member nor a router arrives afterwards (`endsEmpty`),
  an ended space has no router, no subscriber and no member.
-/
import Twolk.Coordinator.Lifecycle
import Twolk.Coordinator.Subscriptions

namespace Twolk.Coordinator

open Twolk.Lib

variable {κ : Type}

/-! ## §1. The contract. -/

/-- Nothing is left of the space. -/
structure Vacant (uuid : Uuid) (c : Coord κ) : Prop where
  primaryRouter : c.primaryOf uuid = none
  /-- No server is subscribed, in either map. -/
  subscriptions : ∀ serverId,
    SpaceService.isSubscribed c serverId uuid = false
  subscribers : SpaceService.hasSubscribers c uuid = false
  members : c.membersOf uuid = []

/-- The continuation adds a member to `uuid`. -/
def Task.joins (uuid : Uuid) : Task κ → Bool
  | .allocated (.addMember spaceUuid ..) (.ok _) => spaceUuid = uuid
  | _ => false

/-- The space is still empty when the continuation that ends it runs, and
neither a member nor a router arrives in an ended space. -/
def endsEmpty (uuid : Uuid) : Guard (Coord κ) (Action κ) (Out κ)
  | _, c, .resume i => ∀ t ∈ c.tasks[i]?,
      (t.ends uuid = true → SpaceService.hasSubscribers c uuid = false ∧
        c.membersOf uuid = []) ∧
      (t.joins uuid = true → c.statusOf uuid ≠ some .ended)
  | _, c, .routerAck id _ => ∀ w ∈ c.routerRequests.get? id,
      w.uuid = uuid → c.statusOf uuid ≠ some .ended
  | _, _, _ => True

instance (uuid : Uuid) (tr : List (Out κ)) (c : Coord κ) :
    ∀ a, Decidable (endsEmpty uuid tr c a)
  | .resume i => inferInstanceAs (Decidable (∀ t ∈ c.tasks[i]?,
      (t.ends uuid = true → SpaceService.hasSubscribers c uuid = false ∧
        c.membersOf uuid = []) ∧
      (t.joins uuid = true → c.statusOf uuid ≠ some .ended)))
  | .routerAck id _ => inferInstanceAs (Decidable
      (∀ w ∈ c.routerRequests.get? id,
        w.uuid = uuid → c.statusOf uuid ≠ some .ended))
  | .createSpaceRequest .. | .readSpaceRequest .. |
    .subscribeToSpaceRequest .. | .unsubscribeFromSpaceRequest .. |
    .addMemberRequest .. | .removeMemberRequest .. | .spaceUpdateStream .. |
    .tryJoinSpaceRequest .. | .signalingServerConnected .. |
    .signalingServerDisconnected _ | .mediaWorkerConnected _ |
    .mediaWorkerDisconnected _ | .routerNack .. | .transportAck .. |
    .transportNack .. | .updateAck .. | .updateNack .. => .isTrue trivial

/-! ## §2. The invariant. -/

/-- The contract, read off the map from spaces to servers. -/
structure Deserted (uuid : Uuid) (c : Coord κ) : Prop where
  primaryRouter : c.primaryOf uuid = none
  subscribed : ∀ serverId, ¬ c.subscribed serverId uuid
  members : c.membersOf uuid = []

/-- An ended space is deserted. -/
def EndsDeserted (uuid : Uuid) (c : Coord κ) : Prop :=
  c.statusOf uuid = some .ended → Deserted uuid c

/-- `c'` holds no more of the space than `c`, and has not just ended it. -/
structure Shrinks (uuid : Uuid) (c c' : Coord κ) : Prop where
  status : c'.statusOf uuid = some .ended → c.statusOf uuid = some .ended
  primaryRouter : c.primaryOf uuid = none → c'.primaryOf uuid = none
  subscribed : ∀ serverId, c'.subscribed serverId uuid →
    c.subscribed serverId uuid
  members : ∀ m ∈ c'.membersOf uuid, m ∈ c.membersOf uuid

/-- Members and servers who leave keep the invariant. -/
theorem Shrinks.endsDeserted {uuid : Uuid} {c c' : Coord κ}
    (h : Shrinks uuid c c') (hI : EndsDeserted uuid c) :
    EndsDeserted uuid c' := by
  intro hs
  have hd := hI (h.status hs)
  refine ⟨h.primaryRouter hd.primaryRouter,
    fun S hS => hd.subscribed S (h.subscribed S hS), ?_⟩
  refine List.eq_nil_iff_forall_not_mem.mpr fun m hm => ?_
  have hm' := h.members m hm
  rw [hd.members] at hm'
  cases hm'

/-- A stretch that leaves the record and the subscribers of the space
alone. -/
theorem Shrinks.of_get {uuid : Uuid} {c c' : Coord κ}
    (hs : c'.spaces.get? uuid = c.spaces.get? uuid)
    (hm : c'.spaceToSubscribedMap = c.spaceToSubscribedMap) :
    Shrinks uuid c c' where
  status := by
    rw [Coord.statusOf, hs]
    exact fun h => h
  primaryRouter := by
    rw [Coord.primaryOf, Coord.primaryOf, hs]
    exact fun h => h
  subscribed S := by
    rw [Coord.subscribed, hm]
    exact fun h => h
  members m := by
    rw [Coord.membersOf, Coord.membersOf, hs]
    exact fun h => h

/-! ## §3. Each effect keeps the invariant. -/

section Effects

variable [Callback κ] {uuid : Uuid} {tr : List (Out κ)} {base c c' : Coord κ}
  {a : Action κ}

omit [Callback κ] in
theorem statusOf_modify_self {spaces : JsMap Uuid Space} {f : Space → Space}
    {st : SpaceStatus} (hf : ∀ s, (f s).status = st) :
    ((spaces.modify uuid f).get? uuid).map Space.status ≠ none →
      ((spaces.modify uuid f).get? uuid).map Space.status = some st := by
  intro h
  rw [JsMap.get?_modify_self] at h ⊢
  cases hs : spaces.get? uuid with
  | none =>
      rw [hs] at h
      exact absurd rfl h
  | some s =>
      show some (f s).status = some st
      rw [hf]

/-- Each effect of a guarded stretch keeps the contract. -/
theorem endsDeserted_effect (hg : endsEmpty uuid tr base a)
    (hbase : EndsDeserted uuid base) (hwf : RouterWF base)
    (hsub : SubWF base) (h : Effect base a c c')
    (hI : EndsDeserted uuid c) : EndsDeserted uuid c' := by
  -- an ended space is empty, and most effects take away only
  cases h with
  | media h =>
      refine Shrinks.endsDeserted ?_ hI
      exact .of_get (by rw [h.frame.spaces]) h.frame.spaceToSubscribedMap
  -- a new space has not ended
  | createSpace _ uuid' data policy hn =>
      by_cases heq : uuid = uuid'
      · subst heq
        intro hs
        simp [Coord.statusOf] at hs
      · refine Shrinks.endsDeserted ?_ hI
        exact .of_get (JsMap.get?_set_of_ne _ _ heq) rfl
  | @subscribe i cb serverId uuid' ha ht hr =>
      intro hs
      have hd := hbase hs
      refine ⟨hd.primaryRouter, fun S hS => ?_, hd.members⟩
      rcases subscribed_subscribe.mp hS with hS | ⟨-, rfl⟩
      · exact hd.subscribed S hS
      · -- a space without a router accepts no subscriber
        have hp : base.primaryOf uuid = none := hd.primaryRouter
        rw [Coord.primaryOf] at hp
        rw [hp] at hr
        cases hr
  | unsubscribe serverId uuid' =>
      refine Shrinks.endsDeserted ?_ hI
      exact ⟨fun h => h, fun h => h,
        fun S hS => (subscribed_unsubscribe.mp hS).1, fun m hm => hm⟩
  | workers | resolve | request | routerNack | take =>
      refine Shrinks.endsDeserted ?_ hI
      exact .of_get rfl rfl
  -- the guard excludes the only ack that could bring a router
  | @routerAck id w caps ha hw =>
      rw [onRouterAck_eq hwf caps hw]
      by_cases heq : uuid = w.uuid
      · -- no router arrives for an ended space
        subst heq ha
        intro hs
        refine absurd ?_ (hg w hw rfl)
        exact (statusOf_modify base.spaces w.uuid (fun _ => by rfl)
          w.uuid).symm.trans hs
      · refine Shrinks.endsDeserted ?_ hI
        exact .of_get (JsMap.get?_modify_of_ne _ _ heq) rfl
  -- `run` sets another status, so the hypothesis is void
  | @run i uuid' k r ha ht =>
      by_cases heq : uuid = uuid'
      · subst heq
        intro hs
        have hs : ((base.spaces.modify uuid fun s =>
          { s with status := .running }).get? uuid).map Space.status
            = some .ended := hs
        have hst : ((base.spaces.modify uuid fun s =>
            { s with status := .running }).get? uuid).map Space.status
              = some .running := by
          refine statusOf_modify_self (fun _ => by rfl) fun h => ?_
          rw [hs] at h
          cases h
        rw [hst] at hs
        cases hs
      · refine Shrinks.endsDeserted ?_ hI
        exact .of_get (JsMap.get?_modify_of_ne _ _ heq) rfl
  | @finish i uuid' k ha ht =>
      by_cases heq : uuid = uuid'
      · -- the guard: the space is still empty
        subst heq ha
        obtain ⟨hg, -⟩ := hg _ ht
        obtain ⟨hn, hm⟩ := hg (decide_eq_true rfl)
        intro _
        refine ⟨?_, fun S hS => ?_, ?_⟩
        · show (((base.spaces.modify uuid _).modify uuid _).get? uuid).bind
            Space.primaryRouter = none
          rw [JsMap.get?_modify_self, JsMap.get?_modify_self]
          cases base.spaces.get? uuid <;> rfl
        · have hS : base.subscribed S uuid := hS
          have := (hasSubscribers_iff hsub).mpr ⟨S, hS⟩
          rw [hn] at this
          cases this
        · refine Eq.trans ?_ hm
          exact (members_modify _ _ (fun _ => by rfl) uuid).trans
            (members_modify _ _ (fun _ => by rfl) uuid)
      · refine Shrinks.endsDeserted ?_ hI
        exact .of_get (spaces_afterEnd_of_ne (c := base.without i) heq) rfl
  -- the policy has checked the counts in the same stretch
  | @finishNow _ uuid' space hs he hr =>
      by_cases heq : uuid = uuid'
      · subst heq
        intro _
        have hp : c.primaryOf uuid = none := by
          rw [Coord.primaryOf, hs]
          exact hr
        have hm : c.membersOf uuid = [] := by
          rw [Coord.membersOf, hs]
          refine List.length_eq_zero_iff.mp ?_
          exact (JsMap.size_eq_length_keys _).symm.trans he.members
        refine ⟨?_, subscriberCount_eq_zero_iff.mp he.subscribers, ?_⟩
        · exact (primaryRouter_modify c.spaces uuid (fun _ => by rfl)
            uuid).trans hp
        · exact (members_modify c.spaces uuid (fun _ => by rfl)
            uuid).trans hm
      · refine Shrinks.endsDeserted ?_ hI
        exact .of_get (JsMap.get?_modify_of_ne _ _ heq) rfl
  | @beginEnd _ uuid' space r =>
      obtain ⟨transports, routers, l, heq, -⟩ := remove_eq c r
      rw [heq]
      refine Shrinks.endsDeserted ?_ hI
      exact .of_get rfl rfl
  -- the guard excludes a join of an ended space
  | @join i uuid' data state cb r ha ht =>
      by_cases heq : uuid = uuid'
      · -- no member joins an ended space
        subst heq ha
        obtain ⟨-, hg⟩ := hg _ ht
        intro hs
        refine absurd ?_ (hg (decide_eq_true rfl))
        exact (statusOf_modify base.spaces uuid (fun _ => by rfl)
          uuid).symm.trans hs
      · refine Shrinks.endsDeserted ?_ hI
        exact .of_get (JsMap.get?_modify_of_ne _ _ heq) rfl
  | @removeMember _ cb id member ha hm hh hmc hc =>
      refine Shrinks.endsDeserted ?_ hI
      refine ⟨?_, ?_, fun S hS => hS,
        fun m hm => ((membersOf_remove uuid m).mp hm).1⟩
      · exact fun h => (statusOf_modify c.spaces member.owningSpace
          (fun _ => by rfl) uuid).symm.trans h
      · exact fun h => (primaryRouter_modify c.spaces member.owningSpace
          (fun _ => by rfl) uuid).trans h

end Effects

/-! ## §4. Every guarded run. -/

section Runs

variable [Callback κ] {uuid : Uuid}

/-- In every guarded run a space that ends is deserted. -/
theorem endsDeserted_run {past : List (Coord κ)} {c : Coord κ}
    {tr : List (Out κ)} (h : (machine κ).Run (endsEmpty uuid) past c tr) :
    EndsDeserted uuid c := by
  induction h with
  | init h =>
    cases h
    intro hs
    cases hs
  | @step past s s' tr obs a hr hg hs ih =>
    obtain ⟨c', hact, hp⟩ := Option.map_eq_some_iff.mp hs
    obtain ⟨rfl, -⟩ := Prod.mk.inj hp
    have hwf : RouterWF { s with out := [] } :=
      { routerWF_reachable hr.reachable with }
    have hsub : SubWF { s with out := [] } :=
      (subWF_reachable hr.reachable).of_eq rfl rfl
    have hg' : endsEmpty uuid tr { s with out := [] } a := by
      cases a <;> exact hg
    have hI : EndsDeserted uuid { s with out := [] } := by
      refine Shrinks.endsDeserted ?_ ih
      exact .of_get rfl rfl
    exact act_invariant (EndsDeserted uuid) hI hact
      fun d d' he => endsDeserted_effect hg' hI hwf hsub he

/-- **An ended space is empty, in every run whose ends are.** -/
theorem vacant_of_endsEmpty (uuid : Uuid) {past : List (Coord κ)}
    {c : Coord κ} {tr : List (Out κ)}
    (h : (machine κ).Run (endsEmpty uuid) past c tr)
    (hs : c.statusOf uuid = some .ended) : Vacant uuid c := by
  have hd := endsDeserted_run h hs
  have hsub := subWF_reachable h.reachable
  refine ⟨hd.primaryRouter, fun S => ?_, ?_, hd.members⟩
  · refine Bool.eq_false_of_not_eq_true fun hS => ?_
    exact hd.subscribed S ((isSubscribed_iff hsub).mp hS)
  · refine Bool.eq_false_of_not_eq_true fun hS => ?_
    obtain ⟨S, hS⟩ := (hasSubscribers_iff hsub).mp hS
    exact hd.subscribed S hS

end Runs

/-! ## §5. A subscribe that completes during the end. -/

section Late

/-- Server 2 subscribes to a running space; before its continuation runs,
server 1 leaves and the space begins to end. -/
def lateSubscribe : List (Action Unit) :=
  [.mediaWorkerConnected 1,
   .createSpaceRequest "room" ⟨"Room", ""⟩ "subscription-driven" (),
   .subscribeToSpaceRequest 1 "room" (),
   .routerAck 0 "caps", .resume 0, .resume 0,
   .subscribeToSpaceRequest 2 "room" (),
   .unsubscribeFromSpaceRequest 1 "room" (), .resume 0, .resume 0]

/-- The space ends with server 2 subscribed. -/
theorem ends_subscribed : ∃ past c tr,
    (machine Unit).Run anyStep past c tr ∧
      c.statusOf "room" = some .ended ∧
      SpaceService.isSubscribed c 2 "room" = true ∧ ¬ Vacant "room" c := by
  obtain ⟨past, c, tr, hr, hp⟩ := Machine.Run.exists_of_exec
    (M := machine Unit) (G := anyStep) (l := lateSubscribe)
    (p := fun r => decide (r.2.1.statusOf "room" = some .ended ∧
      SpaceService.isSubscribed r.2.1 2 "room" = true)) rfl (by decide)
  obtain ⟨hs, hsub⟩ := of_decide_eq_true hp
  refine ⟨past, c, tr, hr, hs, hsub, fun hv => ?_⟩
  rw [hv.subscriptions 2] at hsub
  cases hsub

/-- The same space without the late subscription ends with nobody in it. -/
theorem vacant_of_endsEmpty_once : ∃ past c tr,
    (machine Unit).Run (endsEmpty "room") past c tr ∧
      c.statusOf "room" = some .ended ∧ Vacant "room" c := by
  obtain ⟨past, c, tr, hr, hp⟩ := Machine.Run.exists_of_exec
    (M := machine Unit) (G := endsEmpty "room")
    (l := lateSubscribe.take 6 ++
      [.unsubscribeFromSpaceRequest 1 "room" (), .resume 0])
    (p := fun r => decide (r.2.1.statusOf "room" = some .ended)) rfl
    (by decide)
  have hs : c.statusOf "room" = some .ended := of_decide_eq_true hp
  exact ⟨past, c, tr, hr, hs, vacant_of_endsEmpty "room" hr hs⟩

end Late

end Twolk.Coordinator
