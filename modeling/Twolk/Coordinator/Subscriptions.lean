/-
  Twolk.Coordinator.Subscriptions
  ───────────────────────────────
  **THE TWO SUBSCRIPTION MAPS AGREE.**

  `spaceSubscriptions` lists the spaces of a server and
  `spaceToSubscribedMap` the servers of a space.  They hold the same pairs,
  and a set that becomes empty is dropped, so `hasSubscribers` and
  `subscriberCount` count what `isSubscribed` says.

  Main results:
    * `subWF_reachable`           — the maps agree in every reachable state,
    * `subscriptions_one_relation` — and after any calls whatever, where a
      pair is subscribed when its last call was `subscribe`.
-/
import Twolk.Coordinator.Members

namespace Twolk.Coordinator

open Twolk.Lib

variable {κ : Type}

/-! ## §1. Subscribed servers. -/

/-- Server `serverId` is subscribed to `uuid`. -/
def Coord.subscribed (c : Coord κ) (serverId : ServerId) (uuid : Uuid) :
    Prop :=
  c.spaceToSubscribedMap.linked uuid serverId

/-- What the code relies on when it reads one of the two maps. -/
structure SubWF (c : Coord κ) : Prop where
  agree : ∀ serverId uuid, c.spaceSubscriptions.linked serverId uuid ↔
    c.subscribed serverId uuid
  inhabited : ∀ uuid servers, c.spaceToSubscribedMap.get? uuid = some servers →
    servers.size ≠ 0

/-- `isSubscribed` reads the relation. -/
theorem isSubscribed_iff {c : Coord κ} (hI : SubWF c) {serverId : ServerId}
    {uuid : Uuid} : SpaceService.isSubscribed c serverId uuid = true ↔
      c.subscribed serverId uuid := by
  rw [← hI.agree, SpaceService.isSubscribed, JsMap.linked]
  cases c.spaceSubscriptions.get? serverId with
  | none => simp
  | some uuids => simp

theorem size_ne_zero_iff {A : Type} [DecidableEq A] {s : JsSet A} :
    s.size ≠ 0 ↔ ∃ v, v ∈ s.keys := by
  rw [JsMap.size_eq_length_keys, Ne, List.length_eq_zero_iff,
    List.eq_nil_iff_forall_not_mem]
  push Not
  exact Iff.rfl

/-- `hasSubscribers` reads it as well. -/
theorem hasSubscribers_iff {c : Coord κ} (hI : SubWF c) {uuid : Uuid} :
    SpaceService.hasSubscribers c uuid = true ↔
      ∃ serverId, c.subscribed serverId uuid := by
  rw [SpaceService.hasSubscribers, JsMap.has_iff]
  constructor
  · rintro ⟨servers, hs⟩
    obtain ⟨v, hv⟩ := size_ne_zero_iff.mp (hI.inhabited uuid servers hs)
    exact ⟨v, servers, hs, hv⟩
  · rintro ⟨v, servers, hs, -⟩
    exact ⟨servers, hs⟩

/-- So does `subscriberCount`. -/
theorem subscriberCount_eq_zero_iff {c : Coord κ} {uuid : Uuid} :
    SpaceService.subscriberCount c uuid = 0 ↔
      ∀ serverId, ¬ c.subscribed serverId uuid := by
  rw [SpaceService.subscriberCount]
  unfold Coord.subscribed JsMap.linked
  cases c.spaceToSubscribedMap.get? uuid with
  | none => simp
  | some servers =>
      have h := size_ne_zero_iff (s := servers)
      simp only [Option.map_some, Option.getD_some]
      rw [← not_iff_not]
      simpa using h

/-! ## §2. Subscribing and unsubscribing. -/

section Maps

variable {A B : Type} [DecidableEq A] [DecidableEq B]

/-- `removeFrom` takes one pair out of a relation. -/
theorem linked_removeFrom {m : JsMap A (JsSet B)} {k k' : A} {v v' : B} :
    (SpaceService.removeFrom m k v).linked k' v' ↔
      m.linked k' v' ∧ ¬ (k' = k ∧ v' = v) := by
  unfold SpaceService.removeFrom
  split
  · rename_i hk
    constructor
    · intro h
      refine ⟨h, ?_⟩
      rintro ⟨rfl, -⟩
      obtain ⟨s, hs, -⟩ := h
      rw [hk] at hs
      cases hs
    · exact fun h => h.1
  -- the set of the same key loses the one value
  · rename_i set hk
    by_cases hkk : k' = k
    · subst hkk
      have hold : m.linked k' v' ↔ v' ∈ set.keys := by
        constructor
        · rintro ⟨s, hs, hv⟩
          rw [hk] at hs
          cases hs
          exact hv
        · exact fun hv => ⟨set, hk, hv⟩
      have hdel : v' ∈ (set.delete v).keys ↔ v' ≠ v ∧ v' ∈ set.keys :=
        JsMap.mem_keys_delete
      rw [hold]
      split
      · -- the set became empty, and is dropped
        rename_i hz
        have hno : v' ∉ (set.delete v).keys := by
          intro hv
          exact size_ne_zero_iff.mpr ⟨v', hv⟩ hz
        rw [hdel] at hno
        constructor
        · rintro ⟨s, hs, -⟩
          rw [JsMap.get?_delete_self] at hs
          cases hs
        · rintro ⟨hv, hne⟩
          exact absurd ⟨fun h => hne ⟨rfl, h⟩, hv⟩ hno
      · constructor
        · rintro ⟨s, hs, hv⟩
          rw [JsMap.get?_set_self] at hs
          cases hs
          obtain ⟨hne, hv⟩ := hdel.mp hv
          exact ⟨hv, fun h => hne h.2⟩
        · rintro ⟨hv, hne⟩
          exact ⟨_, JsMap.get?_set_self _ _ _,
            hdel.mpr ⟨fun h => hne ⟨rfl, h⟩, hv⟩⟩
    -- the sets of other keys stay as they are
    · unfold JsMap.linked
      split
      · rw [JsMap.get?_delete, if_neg hkk]
        simp [hkk]
      · rw [JsMap.get?_set_of_ne _ _ hkk]
        simp [hkk]

/-- No empty set is left by a removal. -/
theorem inhabited_removeFrom {m : JsMap A (JsSet B)} {k : A} {v : B}
    (h : ∀ k s, m.get? k = some s → s.size ≠ 0) :
    ∀ k' s, (SpaceService.removeFrom m k v).get? k' = some s →
      s.size ≠ 0 := by
  intro k' s hs
  unfold SpaceService.removeFrom at hs
  split at hs
  · exact h k' s hs
  · split at hs
    · exact h k' s (JsMap.get?_of_get?_delete hs)
    · rename_i set hk hz
      rw [JsMap.get?_set] at hs
      split at hs
      · cases hs
        exact hz
      · exact h k' s hs

/-- Nor by an addition. -/
theorem inhabited_addTo {m : JsMap A (JsSet B)} {k : A} {v : B}
    (h : ∀ k s, m.get? k = some s → s.size ≠ 0) :
    ∀ k' s, (m.addTo k v).get? k' = some s → s.size ≠ 0 := by
  intro k' s hs
  rw [JsMap.addTo, JsMap.get?_set] at hs
  split at hs
  · cases hs
    exact size_ne_zero_iff.mpr ⟨v, JsSet.mem_keys_add.mpr (.inl rfl)⟩
  · exact h k' s hs

end Maps

/-- `subscribe` adds one pair. -/
theorem subscribed_subscribe {c : Coord κ} {serverId serverId' : ServerId}
    {uuid uuid' : Uuid} :
    (SpaceService.subscribe c serverId uuid).subscribed serverId' uuid' ↔
      c.subscribed serverId' uuid' ∨
        serverId' = serverId ∧ uuid' = uuid :=
  JsMap.linked_addTo.trans (or_congr_right And.comm)

/-- `unsubscribe` takes one pair out. -/
theorem subscribed_unsubscribe {c : Coord κ}
    {serverId serverId' : ServerId} {uuid uuid' : Uuid} :
    (SpaceService.unsubscribe c serverId uuid).subscribed serverId' uuid' ↔
      c.subscribed serverId' uuid' ∧
        ¬ (serverId' = serverId ∧ uuid' = uuid) :=
  linked_removeFrom.trans (and_congr_right fun _ => not_congr And.comm)

/-- The two maps still say the same. -/
theorem SubWF.subscribe {c : Coord κ} (hI : SubWF c) (serverId : ServerId)
    (uuid : Uuid) : SubWF (SpaceService.subscribe c serverId uuid) where
  agree serverId' uuid' := by
    rw [subscribed_subscribe, ← hI.agree]
    exact JsMap.linked_addTo
  inhabited := inhabited_addTo hI.inhabited

theorem SubWF.unsubscribe {c : Coord κ} (hI : SubWF c)
    (serverId : ServerId) (uuid : Uuid) :
    SubWF (SpaceService.unsubscribe c serverId uuid) where
  agree serverId' uuid' := by
    rw [subscribed_unsubscribe, ← hI.agree]
    exact linked_removeFrom
  inhabited := inhabited_removeFrom hI.inhabited

/-! ## §3. Every reachable state. -/

section Reachable

variable [Callback κ]

omit [Callback κ] in
theorem SubWF.of_eq {c c' : Coord κ} (hI : SubWF c)
    (h : c'.spaceSubscriptions = c.spaceSubscriptions)
    (h' : c'.spaceToSubscribedMap = c.spaceToSubscribedMap) : SubWF c' where
  agree serverId uuid := by
    rw [Coord.subscribed, h, h']
    exact hI.agree serverId uuid
  inhabited uuid servers hs := hI.inhabited uuid servers (h' ▸ hs)

/-- They do after every effect. -/
theorem subWF_effect {base c c' : Coord κ} {a : Action κ}
    (h : Effect base a c c') (hI : SubWF c) : SubWF c' := by
  cases h with
  | media h =>
      exact hI.of_eq h.frame.spaceSubscriptions h.frame.spaceToSubscribedMap
  | @subscribe i _ serverId uuid =>
      have hI' : SubWF (base.without i) := hI.of_eq rfl rfl
      exact hI'.subscribe serverId uuid
  | unsubscribe serverId uuid => exact hI.unsubscribe serverId uuid
  | routerAck ha hw =>
      unfold RouterAllocator.onRouterAck
      split
      · exact hI
      · exact hI.of_eq rfl rfl
  | @beginEnd _ uuid space r =>
      obtain ⟨transports, routers, l, heq, -⟩ := remove_eq c r
      rw [heq]
      exact hI.of_eq rfl rfl
  | createSpace | workers | resolve | request | routerNack | take | run
    | finish | finishNow | join | removeMember => exact hI.of_eq rfl rfl

/-- **The two maps agree in every reachable state.** -/
theorem subWF_reachable {c : Coord κ} (h : (machine κ).Reachable c) :
    SubWF c := by
  refine reachable_invariant SubWF (fun _ _ hI => hI.of_eq rfl rfl) ?_
    (fun _ _ _ _ _ he hI => subWF_effect he hI) h
  refine ⟨fun _ _ => ⟨?_, ?_⟩, fun _ _ h => by cases h⟩
  · rintro ⟨s, hs, -⟩
    cases hs
  · rintro ⟨s, hs, -⟩
    cases hs

end Reachable

/-! ## §4. Any sequence of calls. -/

/-- A call of `subscribe` or `unsubscribe`. -/
inductive SubscriptionCall where
  | subscribe (serverId : ServerId) (uuid : Uuid)
  | unsubscribe (serverId : ServerId) (uuid : Uuid)
  deriving DecidableEq

namespace SubscriptionCall

/-- The pair a call is about. -/
def pair : SubscriptionCall → ServerId × Uuid
  | subscribe serverId uuid => (serverId, uuid)
  | unsubscribe serverId uuid => (serverId, uuid)

/-- One call. -/
def run (c : Coord κ) : SubscriptionCall → Coord κ
  | subscribe serverId uuid => SpaceService.subscribe c serverId uuid
  | unsubscribe serverId uuid => SpaceService.unsubscribe c serverId uuid

/-- The calls, in order. -/
def runAll (c : Coord κ) (calls : List SubscriptionCall) : Coord κ :=
  calls.foldl run c

/-- The last of the calls on a pair. -/
def last (calls : List SubscriptionCall) (serverId : ServerId)
    (uuid : Uuid) : Option SubscriptionCall :=
  (calls.filter fun call => call.pair = (serverId, uuid)).getLast?

/-- The last call about a pair is the newest call, if it is about that pair. -/
theorem last_snoc (calls : List SubscriptionCall) (call : SubscriptionCall)
    (serverId : ServerId) (uuid : Uuid) :
    last (calls ++ [call]) serverId uuid
      = if call.pair = (serverId, uuid) then some call
        else last calls serverId uuid := by
  unfold last
  rw [List.filter_append]
  by_cases h : call.pair = (serverId, uuid)
  · rw [if_pos h, List.filter_cons_of_pos (by simpa using h),
      List.filter_nil, List.getLast?_concat]
  · rw [if_neg h, List.filter_cons_of_neg (by simpa using h),
      List.filter_nil, List.append_nil]

/-- The sets of both maps are inhabited, and they hold the same pairs. -/
structure OneRelation (c : Coord κ) : Prop extends SubWF c where
  inhabited' : ∀ serverId uuids,
    c.spaceSubscriptions.get? serverId = some uuids → uuids.size ≠ 0

/-- One call keeps the maps one relation. -/
theorem OneRelation.run {c : Coord κ} (hI : OneRelation c)
    (call : SubscriptionCall) : OneRelation (call.run c) := by
  cases call with
  | subscribe serverId uuid =>
      exact ⟨hI.toSubWF.subscribe serverId uuid,
        inhabited_addTo hI.inhabited'⟩
  | unsubscribe serverId uuid =>
      exact ⟨hI.toSubWF.unsubscribe serverId uuid,
        inhabited_removeFrom hI.inhabited'⟩

/-- A call changes what is subscribed at its pair only. -/
theorem subscribed_run {c : Coord κ} (call : SubscriptionCall)
    (serverId : ServerId) (uuid : Uuid) :
    (call.run c).subscribed serverId uuid ↔
      if call.pair = (serverId, uuid) then
        call = .subscribe serverId uuid
      else c.subscribed serverId uuid := by
  by_cases h : call.pair = (serverId, uuid)
  · rw [if_pos h]
    cases call with
    | subscribe =>
        cases h
        exact iff_of_true (subscribed_subscribe.mpr (.inr ⟨rfl, rfl⟩)) rfl
    | unsubscribe =>
        cases h
        refine iff_of_false ?_ (by simp)
        intro hs
        exact (subscribed_unsubscribe.mp hs).2 ⟨rfl, rfl⟩
  · rw [if_neg h]
    have hne : ∀ {s u}, (s, u) ≠ (serverId, uuid) →
        ¬ (serverId = s ∧ uuid = u) := by
      rintro s u hn ⟨rfl, rfl⟩
      exact hn rfl
    cases call with
    | subscribe s u =>
        refine subscribed_subscribe.trans ?_
        exact or_iff_left (hne h)
    | unsubscribe s u =>
        refine subscribed_unsubscribe.trans ?_
        exact and_iff_left (hne h)

/-- So does any list of calls. -/
theorem oneRelation_runAll (calls : List SubscriptionCall) :
    OneRelation (runAll (Coord.initial : Coord κ) calls) := by
  have hempty : ∀ {A B : Type} [DecidableEq A] [DecidableEq B] (k : A)
      (v : B), ¬ (∅ : JsMap A (JsSet B)).linked k v := by
    rintro A B _ _ k v ⟨s, hs, -⟩
    cases hs
  have hinitial : OneRelation (Coord.initial : Coord κ) :=
    { agree := fun _ _ => iff_of_false (hempty _ _) (hempty _ _)
      inhabited := fun _ _ h => nomatch h
      inhabited' := fun _ _ h => nomatch h }
  unfold runAll
  generalize (Coord.initial : Coord κ) = c at hinitial
  induction calls generalizing c with
  | nil => exact hinitial
  | cons call calls ih => exact ih _ (hinitial.run call)

/-- By induction on the calls, the last one first. -/
theorem subscribed_runAll (calls : List SubscriptionCall)
    (serverId : ServerId) (uuid : Uuid) :
    (runAll (Coord.initial : Coord κ) calls).subscribed serverId uuid ↔
      last calls serverId uuid = some (.subscribe serverId uuid) := by
  induction calls using List.reverseRecOn with
  | nil =>
      refine iff_of_false ?_ (by simp [last])
      rintro ⟨s, hs, -⟩
      cases hs
  | append_singleton calls call ih =>
      have hrun : runAll (Coord.initial : Coord κ) (calls ++ [call])
          = call.run (runAll Coord.initial calls) := by
        unfold runAll
        rw [List.foldl_append, List.foldl_cons, List.foldl_nil]
      rw [hrun, subscribed_run, last_snoc]
      by_cases h : call.pair = (serverId, uuid)
      · rw [if_pos h, if_pos h, Option.some_inj]
      · rw [if_neg h, if_neg h]
        exact ih

end SubscriptionCall

/-- **The two maps are one relation**, after any calls of `subscribe` and
`unsubscribe`. -/
theorem subscriptions_one_relation (calls : List SubscriptionCall) :
    let c := SubscriptionCall.runAll (Coord.initial : Coord κ) calls
    (∀ serverId uuid, c.spaceSubscriptions.linked serverId uuid ↔
      c.spaceToSubscribedMap.linked uuid serverId) ∧
    (∀ serverId uuids, c.spaceSubscriptions.get? serverId = some uuids →
      uuids.size ≠ 0) ∧
    (∀ uuid servers, c.spaceToSubscribedMap.get? uuid = some servers →
      servers.size ≠ 0) ∧
    (∀ serverId uuid, SpaceService.isSubscribed c serverId uuid = true ↔
      SubscriptionCall.last calls serverId uuid
        = some (.subscribe serverId uuid)) ∧
    (∀ uuid, SpaceService.hasSubscribers c uuid = true ↔
      ∃ serverId, SpaceService.isSubscribed c serverId uuid = true) ∧
    ∀ uuid, ∃ servers : List ServerId, servers.Nodup ∧
      (∀ serverId, serverId ∈ servers ↔
        SpaceService.isSubscribed c serverId uuid = true) ∧
      SpaceService.subscriberCount c uuid = servers.length := by
  -- both maps hold the relation of the calls, by induction on them
  intro c
  have hI : SubscriptionCall.OneRelation c :=
    SubscriptionCall.oneRelation_runAll calls
  have hsub : ∀ {serverId uuid},
      SpaceService.isSubscribed c serverId uuid = true ↔
        c.subscribed serverId uuid := isSubscribed_iff hI.toSubWF
  refine ⟨hI.agree, hI.inhabited', hI.inhabited, fun serverId uuid => ?_,
    fun uuid => ?_, fun uuid => ?_⟩
  -- the last call about a pair decides whether it is subscribed
  · exact hsub.trans (SubscriptionCall.subscribed_runAll calls _ _)
  -- the second map is asked for the space, the first for the pair
  · refine (hasSubscribers_iff hI.toSubWF).trans ?_
    exact exists_congr fun _ => hsub.symm
  · -- the keys of the set stored for the space, if there is one
    unfold SpaceService.subscriberCount
    cases hs : c.spaceToSubscribedMap.get? uuid with
    | none =>
        refine ⟨[], List.nodup_nil, fun serverId => ?_, rfl⟩
        refine iff_of_false List.not_mem_nil fun h => ?_
        obtain ⟨servers, hget, -⟩ := hsub.mp h
        rw [hs] at hget
        cases hget
    | some servers =>
        refine ⟨servers.keys, JsMap.keys_nodup _, fun serverId => ?_,
          JsMap.size_eq_length_keys _⟩
        rw [hsub]
        constructor
        · exact fun h => ⟨servers, hs, h⟩
        · rintro ⟨servers', hget, h⟩
          rw [hs] at hget
          cases hget
          exact h

end Twolk.Coordinator
