/-
  Twolk.Media.Agreement
  ─────────────────────
  **COORDINATOR AND WORKERS AGREE.**

  Requests are broadcast, and each worker silently ignores what it does not
  own.  `Agreement` says that ownership is never split and never lost: an
  allocated transport is hosted by exactly one worker, a request is answered
  by at most one worker, and an update is taken by exactly one.

  The invariant behind it (`Inv`): an id belongs to the worker that was asked
  to use it, and a transport is registered before its ack is on its way, so
  before the coordinator can allocate it.
-/
import Twolk.Media.Registry

namespace Twolk.Media

open Twolk.Lib

variable {κ : Type}

/-! ## §1. The statement. -/

/-- The observation answers the request for router `r`. -/
def answersRouter (r : RouterId) :
    Worker.Out (UpdateCallback κ) → Bool
  | .routerAck r' _ | .routerNack r' _ => r' == r
  | _ => false

/-- The observation answers the request for transport `t`. -/
def answersTransport (t : TransportId) :
    Worker.Out (UpdateCallback κ) → Bool
  | .transportAck t' _ | .transportNack t' _ => t' == t
  | _ => false

/-- A worker starts update `n`. -/
def Out.handles (n : Nat) : Out κ → Bool
  | .worker _ o => Media.handles n o
  | .coordinator _ => false

/-- Coordinator and workers agree after the observations `tr`. -/
structure Agreement (tr : List (Out κ)) (s : Cluster κ) : Prop where
  /-- An allocated transport is registered at exactly one worker, as its
  record asks for. -/
  registered : ∀ t T, s.coordinator.transportHeap.get? t = some T →
    T.status = .allocated ∨ T.status = .connected →
    ∃ w, s.workers.filter (fun w => w.transports.has t) = [w] ∧ Hosts w t T
  routerAnswers : ∀ r i j o o', .worker i o ∈ tr → .worker j o' ∈ tr →
    answersRouter r o = true → answersRouter r o' = true → i = j
  transportAnswers : ∀ t i j o o', .worker i o ∈ tr → .worker j o' ∈ tr →
    answersTransport t o = true → answersTransport t o' = true → i = j
  /-- A published update is started by exactly one worker, once. -/
  updates : ∀ n t update cb,
    .coordinator (.transportUpdate n t update cb) ∈ tr →
    tr.countP (Out.handles n) = 1

/-- **A worker starts an update exactly when it holds the transport of the
update**; every other worker is as it was. -/
theorem receive_update [Callback κ] (w : SfuWorker κ) (n : Nat)
    (id : TransportId) (update : TransportUpdateC) (cb : κ) :
    (w.transports.has id = true → ∃ m,
      (Cluster.receive w (.transportUpdate n id update cb)).out
        = w.out ++ .handled ⟨w.requestIdGen, ⟨n, update, cb⟩⟩ :: m) ∧
      (w.transports.has id = false →
        Cluster.receive w (.transportUpdate n id update cb) = w) := by
  have heq : Cluster.receive w (.transportUpdate n id update cb)
      = w.onTransportUpdate id update ⟨n, update, cb⟩ := rfl
  rw [heq]
  refine ⟨fun hhas => ?_, fun hhas => ?_⟩
  · obtain ⟨transport, hT⟩ := JsMap.has_iff.mp hhas
    obtain ⟨m, hm, -⟩ := (Worker.onTransportUpdate_setupFrame hT update
      (⟨n, update, cb⟩ : UpdateCallback κ)).out
    refine ⟨m, ?_⟩
    rw [hm]
    exact List.append_assoc w.out [_] m
  · unfold Worker.SfuWorker.onTransportUpdate
    rw [JsMap.has_eq_false_iff.mp hhas]

theorem ofOwner_of_answersRouter {r : RouterId}
    {o : Worker.Out (UpdateCallback κ)} (h : answersRouter r o = true) :
    o.ofOwner = true ∧ ∀ caller, o ≠ .handled caller := by
  cases o <;> simp [answersRouter, Worker.Out.ofOwner] at h ⊢

theorem ofOwner_of_answersTransport {t : TransportId}
    {o : Worker.Out (UpdateCallback κ)} (h : answersTransport t o = true) :
    o.ofOwner = true ∧ ∀ caller, o ≠ .handled caller := by
  cases o <;> simp [answersTransport, Worker.Out.ofOwner] at h ⊢

/-! ## §2. The invariant. -/

/-- What the agreement rests on. -/
structure Inv [Callback κ] (tr : List (Out κ)) (s : Cluster κ) : Prop where
  reachable : (Coordinator.machine κ).Reachable s.coordinator
  ids : (s.workers.map Worker.SfuWorker.workerId).Nodup
  agrees : ∀ w ∈ s.workers, Agrees s.coordinator w
  /-- An id belongs to one worker. -/
  oneRouter : ∀ w ∈ s.workers, ∀ w' ∈ s.workers, ∀ r,
    r ∈ w.assignedRouters.keys → r ∈ w'.assignedRouters.keys →
    w.workerId = w'.workerId
  oneTransport : ∀ w ∈ s.workers, ∀ w' ∈ s.workers, ∀ t,
    t ∈ w.assignedTransports.keys → t ∈ w'.assignedTransports.keys →
    w.workerId = w'.workerId
  /-- A transport is registered before its ack is on its way. -/
  acked : ∀ t options, .transportAck t options ∈ s.answers →
    ∃ w ∈ s.workers, t ∈ w.transports.keys
  allocated : ∀ t T, s.coordinator.transportHeap.get? t = some T →
    T.status ≠ .unallocated → ∃ w ∈ s.workers, t ∈ w.transports.keys
  routerAnswers : ∀ i o r, .worker i o ∈ tr → answersRouter r o = true →
    ∃ w ∈ s.workers, w.workerId = i ∧ r ∈ w.assignedRouters.keys
  transportAnswers : ∀ i o t, .worker i o ∈ tr →
    answersTransport t o = true →
    ∃ w ∈ s.workers, w.workerId = i ∧ t ∈ w.assignedTransports.keys
  updates : ∀ n t update cb,
    .coordinator (.transportUpdate n t update cb) ∈ tr →
    n < s.coordinator.updateIdGen
  handled : ∀ n, tr.countP (Out.handles n)
    = if n < s.coordinator.updateIdGen then 1 else 0

section Inv

variable [Callback κ] {tr : List (Out κ)} {s : Cluster κ}

/-- The coordinator of a cluster is in order. -/
theorem Inv.coordWF (hI : Inv tr s) : Coordinator.CoordWF s.coordinator :=
  Coordinator.coordWF_reachable hI.reachable

/-- A registered transport is at one worker. -/
theorem Inv.only (hI : Inv tr s) {w : SfuWorker κ} {t : TransportId}
    (hw : w ∈ s.workers) (ht : t ∈ w.transports.keys) :
    s.workers.filter (fun w => w.transports.has t) = [w] := by
  refine filter_eq_singleton hI.ids hw (JsMap.has_eq_true_iff_mem.mpr ht)
    fun w' hw' ht' => ?_
  rw [JsMap.has_eq_true_iff_mem] at ht'
  exact hI.oneTransport w' hw' w hw t
    (assigned_of_registered (hI.agrees w' hw').setup ht')
    (assigned_of_registered (hI.agrees w hw).setup ht)

/-- **The invariant gives the agreement.** -/
theorem Inv.agreement (hI : Inv tr s) : Agreement tr s where
  registered t T hT hst := by
    obtain ⟨w, hw, ht⟩ := hI.allocated t T hT fun h => by
      rw [h] at hst
      rcases hst with hst | hst <;> cases hst
    exact ⟨w, hI.only hw ht, (hI.agrees w hw).hosts ht hT⟩
  routerAnswers r i j o o' ho ho' hr hr' := by
    obtain ⟨w, hw, rfl, ha⟩ := hI.routerAnswers i o r ho hr
    obtain ⟨w', hw', rfl, ha'⟩ := hI.routerAnswers j o' r ho' hr'
    exact hI.oneRouter w hw w' hw' r ha ha'
  transportAnswers t i j o o' ho ho' ht ht' := by
    obtain ⟨w, hw, rfl, ha⟩ := hI.transportAnswers i o t ho ht
    obtain ⟨w', hw', rfl, ha'⟩ := hI.transportAnswers j o' t ho' ht'
    exact hI.oneTransport w hw w' hw' t ha ha'
  updates n t update cb hm := by
    rw [hI.handled, if_pos (hI.updates n t update cb hm)]

end Inv

/-! ## §3. A stretch of the coordinator. -/

section Publish

variable [Callback κ] {tr : List (Out κ)} {s : Cluster κ}
  {a : Coordinator.Action κ} {c : Coordinator.Coord κ}

/-- The state a stretch of the coordinator starts from. -/
theorem Inv.publishes (hI : Inv tr s)
    (hc : Coordinator.Coord.act { s.coordinator with out := [] } a
      = some c) :
    Coordinator.Publishes { s.coordinator with out := [] } a c := by
  have hwf := hI.coordWF
  refine Coordinator.publishes_act ?_ rfl hc
  exact ⟨{ hwf.router with }, { hwf.member with }, { hwf.transport with }⟩

/-- Every worker takes the messages of the stretch. -/
theorem Inv.received (hI : Inv tr s)
    (hp : Coordinator.Publishes { s.coordinator with out := [] } a c)
    {w : SfuWorker κ} (hw : w ∈ s.workers) :
    Received c { w with out := [] } c.out (Cluster.receiveAll c.out w) := by
  obtain ⟨kr, hkr, hr⟩ := hp.routerIds
  obtain ⟨kt, hkt, ht⟩ := hp.transportIds
  have hgrow : Agrees c w := (hI.agrees w hw).grow
    (hkr ▸ Nat.le_add_right _ _) (hkt ▸ Nat.le_add_right _ _) hp.shape
  refine Media.received c.out _ (hgrow.drop (List.Sublist.refl _)
    (List.Sublist.refl _)) ⟨?_, fun r hm => ?_, ?_, fun t hm => ?_,
      hp.request⟩
  · rw [hr]
    exact List.nodup_range' 1
  · rw [hr] at hm
    obtain ⟨i, hi, rfl⟩ := List.mem_range'.mp hm
    rw [Nat.one_mul]
    refine ⟨fun hassigned => ?_, ?_⟩
    · exact absurd ((hI.agrees w hw).routerIds _ hassigned)
        (Nat.not_lt.mpr (Nat.le_add_right _ _))
    · rw [hkr]
      exact Nat.add_lt_add_left hi _
  · rw [ht]
    exact List.nodup_range' 1
  · rw [ht] at hm
    obtain ⟨i, hi, rfl⟩ := List.mem_range'.mp hm
    rw [Nat.one_mul]
    refine ⟨fun hassigned => ?_, ?_⟩
    · exact absurd ((hI.agrees w hw).transportIds _ hassigned)
        (Nat.not_lt.mpr (Nat.le_add_right _ _))
    · rw [hkt]
      exact Nat.add_lt_add_left hi _

/-- What a worker observes while it takes messages. -/
theorem Inv.observed (hI : Inv tr s)
    (hp : Coordinator.Publishes { s.coordinator with out := [] } a c)
    {w : SfuWorker κ} (hw : w ∈ s.workers) :
    (∀ o ∈ (Cluster.receiveAll c.out w).out, o.ofOwner = true →
      ∃ caller, o = .handled caller) ∧
    ∀ n, (Cluster.receiveAll c.out w).out.countP (handles n)
      = c.out.countP (takes w n) := by
  obtain ⟨m, hm, hs, hcount⟩ := (hI.received hp hw).out
  rw [hm]
  exact ⟨hs, hcount⟩

/-- How often the workers start update `n` in the stretch. -/
theorem Inv.countP_publish (hI : Inv tr s)
    (hp : Coordinator.Publishes { s.coordinator with out := [] } a c)
    (n : Nat) :
    (s.publish c).2.countP (Out.handles n)
      = if s.coordinator.updateIdGen ≤ n ∧ n < c.updateIdGen then 1
        else 0 := by
  obtain ⟨k, hk, hids⟩ := hp.updateIds
  have hsum : (s.publish c).2.countP (Out.handles n)
      = (s.workers.map fun w => c.out.countP (takes w n)).sum := by
    have hcoord : (c.out.map (Out.coordinator (κ := κ))).countP
        (Out.handles n) = 0 := by
      rw [List.countP_map]
      exact List.countP_eq_zero.mpr fun o _ h => by cases h
    show (c.out.map Out.coordinator ++ (s.workers.map
      (Cluster.receiveAll c.out)).flatMap Cluster.observed).countP _ = _
    rw [List.countP_append, hcoord, Nat.zero_add, List.countP_flatMap,
      List.map_map]
    refine congrArg List.sum (List.map_congr_left fun w hw => ?_)
    rw [← (hI.observed hp hw).2 n]
    show List.countP _ (List.map _ _) = _
    rw [List.countP_map]
    rfl
  rw [hsum]
  split
  · rename_i hn
    -- the message, and the one worker that hosts its transport
    have hmem : n ∈ c.out.filterMap Coordinator.Out.updateSent := by
      rw [hids]
      refine List.mem_range'.mpr ⟨n - s.coordinator.updateIdGen, ?_, ?_⟩
      · have hlt : n < s.coordinator.updateIdGen + k := hk ▸ hn.2
        exact Nat.sub_lt_left_of_lt_add hn.1 hlt
      · rw [Nat.one_mul]
        exact (Nat.add_sub_cancel' hn.1).symm
    obtain ⟨o, ho, hon⟩ := List.mem_filterMap.mp hmem
    have hnd : (c.out.filterMap Coordinator.Out.updateSent).Nodup := by
      rw [hids]
      exact List.nodup_range' 1
    cases o with
    | transportUpdate n' t update cb =>
      cases hon
      obtain ⟨T, hT, hst⟩ := hp.update n t update cb ho
      obtain ⟨w, hw, ht⟩ := hI.allocated t T hT hst
      have hone : ∀ w' : SfuWorker κ, c.out.countP (takes w' n)
          = if w'.transports.has t then 1 else 0 := by
        intro w'
        have htakes : ∀ o ∈ c.out, takes w' n o =
            ((o.updateSent.map (· == n)).getD false &&
              w'.transports.has t) := by
          intro o' ho'
          cases o' with
          | transportUpdate n' t' update' cb' =>
              by_cases hn' : n' = n
              · subst hn'
                cases eq_of_filterMap_nodup hnd ho' ho rfl rfl
                rfl
              · have hne : (n' == n) = false := beq_eq_false_iff_ne.mpr hn'
                simp [takes, Coordinator.Out.updateSent, hne]
          | _ => rfl
        rw [List.countP_congr fun o ho => by rw [htakes o ho]]
        by_cases hin : w'.transports.has t = true
        · simp only [hin, Bool.and_true, if_true]
          rw [← List.countP_filterMap]
          exact List.count_eq_one_of_mem hnd hmem
        · simp [hin]
      rw [sum_map_eq_countP fun w' _ => hone w',
        List.countP_eq_length_filter, hI.only hw ht]
      rfl
    | _ => cases hon
  · rename_i hn
    rw [sum_map_eq_countP (p := fun _ => false) fun w _ => ?_]
    · exact List.countP_eq_zero.mpr fun _ _ h => by cases h
    refine List.countP_eq_zero.mpr fun o ho hh => hn ?_
    cases o with
    | transportUpdate n' t update cb =>
      simp only [takes, Bool.and_eq_true, beq_iff_eq] at hh
      obtain ⟨rfl, -⟩ := hh
      have hmem : n' ∈ c.out.filterMap Coordinator.Out.updateSent :=
        List.mem_filterMap.mpr ⟨_, ho, rfl⟩
      rw [hids] at hmem
      obtain ⟨i, hi, rfl⟩ := List.mem_range'.mp hmem
      rw [hk, Nat.one_mul]
      exact ⟨Nat.le_add_right _ _, Nat.add_lt_add_left hi _⟩
    | _ => cases hh

/-- Observations of the workers while they take messages answer no
request. -/
theorem Inv.not_ofOwner (hI : Inv tr s)
    (hp : Coordinator.Publishes { s.coordinator with out := [] } a c)
    {i : WorkerId} {o : Worker.Out (UpdateCallback κ)}
    (ho : .worker i o ∈ (s.publish c).2) :
    o.ofOwner = true → ∃ caller, o = .handled caller := by
  have ho : .worker i o ∈ c.out.map Out.coordinator ++ (s.workers.map
    (Cluster.receiveAll c.out)).flatMap Cluster.observed := ho
  rcases List.mem_append.mp ho with ho | ho
  · obtain ⟨_, -, h⟩ := List.mem_map.mp ho
    cases h
  · obtain ⟨w', hw', ho⟩ := List.mem_flatMap.mp ho
    obtain ⟨w, hw, rfl⟩ := List.mem_map.mp hw'
    obtain ⟨o', ho', h⟩ := List.mem_map.mp ho
    cases h
    exact (hI.observed hp hw).1 o ho'

/-- **A stretch of the coordinator keeps the invariant.** -/
theorem Inv.publish (hI : Inv tr s)
    (hc : Coordinator.Coord.act { s.coordinator with out := [] } a = some c)
    (hack : ∀ t options, a = .transportAck t options →
      ∃ w ∈ s.workers, t ∈ w.transports.keys) :
    Inv (tr ++ (s.publish c).2) (s.publish c).1 := by
  have hp := hI.publishes hc
  have hrec := fun w hw => hI.received hp (w := w) hw
  have hnew := fun i o ho => hI.not_ofOwner hp (i := i) (o := o) ho
  obtain ⟨kr, hkr, hr⟩ := hp.routerIds
  obtain ⟨kt, hkt, ht⟩ := hp.transportIds
  obtain ⟨ku, hku, hu⟩ := hp.updateIds
  have hasked : ∀ {f : Coordinator.Out κ → Option Nat} {gen k x : Nat}
      {o : Coordinator.Out κ}, c.out.filterMap f = List.range' gen k →
      o ∈ c.out → f o = some x → gen ≤ x ∧ x < gen + k := by
    intro f gen k x o hf ho hx
    have hm : x ∈ c.out.filterMap f := List.mem_filterMap.mpr ⟨o, ho, hx⟩
    rw [hf] at hm
    obtain ⟨i, hi, rfl⟩ := List.mem_range'.mp hm
    rw [Nat.one_mul]
    exact ⟨Nat.le_add_right _ _, Nat.add_lt_add_left hi _⟩
  constructor
  case reachable =>
    show (Coordinator.machine κ).Reachable c
    have hs : (Coordinator.machine κ).step s.coordinator a
      = some (c, c.out) := by
      simp [Coordinator.machine, hc]
    exact hI.reachable.step hs
  case ids =>
    show (List.map _ (s.workers.map (Cluster.receiveAll c.out))).Nodup
    rw [List.map_map]
    have hids : s.workers.map (Worker.SfuWorker.workerId ∘
        Cluster.receiveAll c.out) = s.workers.map Worker.SfuWorker.workerId :=
      List.map_congr_left fun w hw => (hrec w hw).workerId
    rw [hids]
    exact hI.ids
  case agrees =>
    intro w' hw'
    obtain ⟨w, hw, rfl⟩ := List.mem_map.mp hw'
    exact (hrec w hw).agrees
  case oneRouter =>
    intro v hv v' hv' r hr₁ hr₂
    obtain ⟨w, hw, rfl⟩ := List.mem_map.mp hv
    obtain ⟨w', hw', rfl⟩ := List.mem_map.mp hv'
    rw [(hrec w hw).workerId, (hrec w' hw').workerId]
    -- an id already in use is not asked for again
    have hold : ∀ {w : SfuWorker κ} {i : WorkerId}, w ∈ s.workers →
        r ∈ w.assignedRouters.keys → .newRouterRequest r i ∉ c.out :=
      fun hw hold hm => absurd ((hI.agrees _ hw).routerIds r hold)
        (Nat.not_lt.mpr (hasked hr hm rfl).1)
    rcases (hrec w hw).assignedRouters r hr₁ with h₁ | h₁ <;>
      rcases (hrec w' hw').assignedRouters r hr₂ with h₂ | h₂
    · exact hI.oneRouter w hw w' hw' r h₁ h₂
    · exact absurd h₂ (hold hw h₁)
    · exact absurd h₁ (hold hw' h₂)
    · have heq := eq_of_filterMap_nodup
        (f := Coordinator.Out.routerAsked) (hr ▸ List.nodup_range' 1) h₁ h₂
        rfl rfl
      exact (Coordinator.Out.newRouterRequest.inj heq).2
  case oneTransport =>
    intro v hv v' hv' t ht₁ ht₂
    obtain ⟨w, hw, rfl⟩ := List.mem_map.mp hv
    obtain ⟨w', hw', rfl⟩ := List.mem_map.mp hv'
    rw [(hrec w hw).workerId, (hrec w' hw').workerId]
    have hold : ∀ {w : SfuWorker κ} {r : RouterId} {b : Bool},
        w ∈ s.workers → t ∈ w.assignedTransports.keys →
        .newWebRtcTransportRequest r t b ∉ c.out :=
      fun hw hold hm => absurd ((hI.agrees _ hw).transportIds t hold)
        (Nat.not_lt.mpr (hasked ht hm rfl).1)
    rcases (hrec w hw).assignedTransports t ht₁ with
        h₁ | ⟨r, b, h₁, hr₁⟩ <;>
      rcases (hrec w' hw').assignedTransports t ht₂ with
        h₂ | ⟨r', b', h₂, hr₂⟩
    · exact hI.oneTransport w hw w' hw' t h₁ h₂
    · exact absurd h₂ (hold hw h₁)
    · exact absurd h₁ (hold hw' h₂)
    · -- both workers have the router of the request
      have heq := eq_of_filterMap_nodup
        (f := Coordinator.Out.transportAsked) (ht ▸ List.nodup_range' 1)
        h₁ h₂ rfl rfl
      obtain ⟨rfl, -, -⟩ :=
        Coordinator.Out.newWebRtcTransportRequest.inj heq
      exact hI.oneRouter w hw w' hw' r
        (assigned_of_router (hI.agrees w hw).setup hr₁)
        (assigned_of_router (hI.agrees w' hw').setup hr₂)
  case acked =>
    intro t options hm
    have hm : .transportAck t options ∈ s.answers ++ (s.workers.map
      (Cluster.receiveAll c.out)).flatMap Cluster.answered := hm
    rcases List.mem_append.mp hm with hm | hm
    · obtain ⟨w, hw, htr⟩ := hI.acked t options hm
      refine ⟨_, List.mem_map_of_mem hw, ?_⟩
      rw [(hrec w hw).transports]
      exact htr
    · obtain ⟨w', hw', hm⟩ := List.mem_flatMap.mp hm
      obtain ⟨w, hw, rfl⟩ := List.mem_map.mp hw'
      obtain ⟨o, ho, hans⟩ := List.mem_filterMap.mp hm
      cases o <;> cases hans
      obtain ⟨caller, h⟩ := (hI.observed hp hw).1 _ ho rfl
      cases h
  case allocated =>
    intro t T hT hst
    have hex : ∃ w ∈ s.workers, t ∈ w.transports.keys := by
      rcases hp.status t T hT hst with ⟨T₀, hT₀, hst₀⟩ | ⟨options, ha⟩
      · exact hI.allocated t T₀ hT₀ hst₀
      · exact hack t options ha
    obtain ⟨w, hw, htr⟩ := hex
    refine ⟨_, List.mem_map_of_mem hw, ?_⟩
    rw [(hrec w hw).transports]
    exact htr
  case routerAnswers =>
    intro i o r ho hans
    rcases List.mem_append.mp ho with ho | ho
    · obtain ⟨w, hw, hid, hr⟩ := hI.routerAnswers i o r ho hans
      exact ⟨_, List.mem_map_of_mem hw, (hrec w hw).workerId.trans hid,
        (hrec w hw).keptRouters r hr⟩
    · obtain ⟨hown, hn⟩ := ofOwner_of_answersRouter hans
      obtain ⟨caller, h⟩ := hnew i o ho hown
      exact absurd h (hn caller)
  case transportAnswers =>
    intro i o t ho hans
    rcases List.mem_append.mp ho with ho | ho
    · obtain ⟨w, hw, hid, ht⟩ := hI.transportAnswers i o t ho hans
      exact ⟨_, List.mem_map_of_mem hw, (hrec w hw).workerId.trans hid,
        (hrec w hw).keptTransports t ht⟩
    · obtain ⟨hown, hn⟩ := ofOwner_of_answersTransport hans
      obtain ⟨caller, h⟩ := hnew i o ho hown
      exact absurd h (hn caller)
  case updates =>
    intro n t update cb hm
    show n < c.updateIdGen
    rcases List.mem_append.mp hm with hm | hm
    · rw [hku]
      exact Nat.lt_of_lt_of_le (hI.updates n t update cb hm)
        (Nat.le_add_right _ _)
    · have hm : .coordinator (.transportUpdate n t update cb)
        ∈ c.out.map Out.coordinator ++ (s.workers.map
          (Cluster.receiveAll c.out)).flatMap Cluster.observed := hm
      rcases List.mem_append.mp hm with hm | hm
      · obtain ⟨o, ho, h⟩ := List.mem_map.mp hm
        cases h
        rw [hku]
        exact (hasked hu ho rfl).2
      · obtain ⟨w, -, hm⟩ := List.mem_flatMap.mp hm
        obtain ⟨o, -, h⟩ := List.mem_map.mp hm
        cases h
  case handled =>
    intro n
    rw [List.countP_append, hI.handled, hI.countP_publish hp]
    show _ = if n < c.updateIdGen then 1 else 0
    have hle : s.coordinator.updateIdGen ≤ c.updateIdGen :=
      hku ▸ Nat.le_add_right _ _
    by_cases h : n < s.coordinator.updateIdGen
    · rw [if_pos h, if_neg fun h' => absurd h (Nat.not_lt.mpr h'.1),
        if_pos (Nat.lt_of_lt_of_le h hle)]
    · rw [if_neg h, Nat.zero_add]
      simp only [Nat.not_lt.mp h, true_and]

end Publish

/-! ## §4. A step of a worker. -/

section Worker

variable [Callback κ] {tr : List (Out κ)} {s : Cluster κ}

omit [Callback κ] in
/-- Replacing the `i`-th worker by a later state of it. -/
theorem exists_mem_set {workers : List (SfuWorker κ)} {i : Nat}
    {w w' : SfuWorker κ} (hi : workers[i]? = some w)
    {P : SfuWorker κ → Prop} (hP : P w → P w') (h : ∃ v ∈ workers, P v) :
    ∃ v ∈ workers.set i w', P v := by
  obtain ⟨v, hv, hPv⟩ := h
  obtain ⟨j, hj, rfl⟩ := List.mem_iff_getElem.mp hv
  by_cases hij : i = j
  · subst hij
    obtain ⟨_, hw⟩ := List.getElem?_eq_some_iff.mp hi
    exact ⟨w', List.mem_set hj w', hP (hw ▸ hPv)⟩
  · refine ⟨_, List.mem_iff_getElem.mpr
      ⟨j, by rwa [List.length_set], rfl⟩, ?_⟩
    rwa [List.getElem_set_ne hij]

/-- **A step of a worker keeps the invariant.** -/
theorem Inv.worker (hI : Inv tr s) {i : Nat} {w w' : SfuWorker κ}
    (hi : s.workers[i]? = some w)
    (hstep : MediaStep s.coordinator { w with out := [] } w') :
    Inv (tr ++ Cluster.observed w') { s with
      workers := s.workers.set i w'
      answers := s.answers ++ Cluster.answered w' } := by
  have hw := List.mem_of_getElem? hi
  obtain ⟨m, hm, howned⟩ := hstep.out
  have hm : w'.out = m := hm
  subst hm
  -- what the worker observes is under its number, and about its own objects
  have hnew : ∀ j o, .worker j o ∈ Cluster.observed w' →
      w'.workerId = j ∧ Owned w' o := by
    intro j o ho
    obtain ⟨o', ho', h⟩ := List.mem_map.mp ho
    cases h
    exact ⟨rfl, howned o ho'⟩
  -- every worker after the step is one from before, with the same assignments
  have hmem : ∀ {v}, v ∈ s.workers.set i w' → ∃ v₀ ∈ s.workers,
      v.workerId = v₀.workerId ∧ v.assignedRouters = v₀.assignedRouters ∧
        v.assignedTransports = v₀.assignedTransports := by
    intro v hv
    rcases List.mem_or_eq_of_mem_set hv with hv | rfl
    · exact ⟨v, hv, rfl, rfl, rfl⟩
    · exact ⟨w, hw, hstep.workerId, hstep.assignedRouters,
        hstep.assignedTransports⟩
  have hw' : w' ∈ s.workers.set i w' :=
    List.mem_set (List.getElem?_eq_some_iff.mp hi).1 w'
  constructor
  -- clause by clause: the worker that acted, or another one
  case reachable => exact hI.reachable
  case ids =>
    show (List.map _ (s.workers.set i w')).Nodup
    have hid : (s.workers.map Worker.SfuWorker.workerId)[i]?
        = some w'.workerId := by
      rw [List.getElem?_map, hi, hstep.workerId]
      rfl
    obtain ⟨hlt, hid⟩ := List.getElem?_eq_some_iff.mp hid
    rw [List.map_set, ← hid, List.set_getElem_self]
    exact hI.ids
  case agrees =>
    intro v hv
    rcases List.mem_or_eq_of_mem_set hv with hv | rfl
    · exact hI.agrees v hv
    · exact hstep.agrees
  case oneRouter =>
    intro v hv v' hv' r hr hr'
    obtain ⟨v₀, hv₀, hid, ha, -⟩ := hmem hv
    obtain ⟨v₀', hv₀', hid', ha', -⟩ := hmem hv'
    rw [hid, hid']
    exact hI.oneRouter v₀ hv₀ v₀' hv₀' r (ha ▸ hr) (ha' ▸ hr')
  case oneTransport =>
    intro v hv v' hv' t ht ht'
    obtain ⟨v₀, hv₀, hid, -, ha⟩ := hmem hv
    obtain ⟨v₀', hv₀', hid', -, ha'⟩ := hmem hv'
    rw [hid, hid']
    exact hI.oneTransport v₀ hv₀ v₀' hv₀' t (ha ▸ ht) (ha' ▸ ht')
  -- the acks in flight are older ones, or those the step has sent
  case acked =>
    intro t options hm
    rcases List.mem_append.mp hm with hm | hm
    · exact exists_mem_set hi (hstep.kept t) (hI.acked t options hm)
    · obtain ⟨o, ho, hans⟩ := List.mem_filterMap.mp hm
      have := howned o ho
      cases o <;> cases hans
      exact ⟨w', hw', this⟩
  case allocated =>
    exact fun t T hT hst =>
      exists_mem_set hi (hstep.kept t) (hI.allocated t T hT hst)
  case routerAnswers =>
    intro j o r ho hans
    rcases List.mem_append.mp ho with ho | ho
    · refine exists_mem_set hi (fun h => ?_) (hI.routerAnswers j o r ho hans)
      exact ⟨hstep.workerId.trans h.1, hstep.assignedRouters.symm ▸ h.2⟩
    · obtain ⟨hid, hown⟩ := hnew j o ho
      refine ⟨w', hw', hid, ?_⟩
      cases o with
      | routerAck r' _ | routerNack r' _ =>
          obtain rfl : r' = r := beq_iff_eq.mp hans
          exact hown
      | _ => cases hans
  case transportAnswers =>
    intro j o t ho hans
    rcases List.mem_append.mp ho with ho | ho
    · refine exists_mem_set hi (fun h => ?_)
        (hI.transportAnswers j o t ho hans)
      exact ⟨hstep.workerId.trans h.1, hstep.assignedTransports.symm ▸ h.2⟩
    · obtain ⟨hid, hown⟩ := hnew j o ho
      refine ⟨w', hw', hid, ?_⟩
      cases o with
      | transportAck t' _ =>
          obtain rfl : t' = t := beq_iff_eq.mp hans
          exact assigned_of_registered hstep.agrees.setup hown
      | transportNack t' _ =>
          obtain rfl : t' = t := beq_iff_eq.mp hans
          exact hown
      | _ => cases hans
  case updates =>
    intro n t update cb hm
    rcases List.mem_append.mp hm with hm | hm
    · exact hI.updates n t update cb hm
    · obtain ⟨o, -, h⟩ := List.mem_map.mp hm
      cases h
  -- a worker marks updates as handled only when it receives them
  case handled =>
    intro n
    have hzero : (Cluster.observed w').countP (Out.handles n) = 0 := by
      refine List.countP_eq_zero.mpr fun o ho hh => ?_
      obtain ⟨o', ho', rfl⟩ := List.mem_map.mp ho
      have := howned o' ho'
      cases o' <;> first | exact this | cases hh
    rw [List.countP_append, hzero, Nat.add_zero]
    exact hI.handled n

end Worker

/-! ## §5. Every run. -/

section Runs

variable [Callback κ]

theorem inv_initial : Inv [] (Cluster.initial : Cluster κ) where
  reachable := ⟨[], [], .init rfl⟩
  ids := List.nodup_nil
  agrees _ h := by cases h
  oneRouter _ h := by cases h
  oneTransport _ h := by cases h
  acked _ _ h := by cases h
  allocated _ _ h := by cases h
  routerAnswers _ _ _ h := by cases h
  transportAnswers _ _ _ h := by cases h
  updates _ _ _ _ h := by cases h
  handled _ := rfl

omit [Callback κ] in
theorem agrees_initial (c : Coordinator.Coord κ) (workerId : WorkerId) :
    Agrees c (Worker.SfuWorker.initial workerId) where
  setup := Worker.setupWF_initial workerId
  routerIds _ h := by cases h
  transportIds _ h := by cases h
  created _ _ h := by cases h
  creating _ _ _ h := by cases h
  registered _ _ h := by cases h
  tables _ _ _ := by
    refine iff_of_false (fun h => ?_) fun ⟨_, _, h, _⟩ => ?_
    · cases h
    · cases h

/-- A worker that starts agrees with the coordinator. -/
theorem Inv.startWorker {tr : List (Out κ)} {s : Cluster κ} (hI : Inv tr s)
    {workerId : WorkerId}
    (hn : workerId ∉ s.workers.map Worker.SfuWorker.workerId) :
    Inv tr { s with
      workers := s.workers ++ [Worker.SfuWorker.initial workerId] } := by
  have hold : ∀ {P : SfuWorker κ → Prop}, (∃ w ∈ s.workers, P w) →
      ∃ w ∈ s.workers ++ [Worker.SfuWorker.initial workerId], P w :=
    fun ⟨w, hw, h⟩ => ⟨w, List.mem_append_left _ hw, h⟩
  have hnew : ∀ w ∈ s.workers ++ [Worker.SfuWorker.initial workerId],
      w ∈ s.workers ∨ w = Worker.SfuWorker.initial workerId := by
    intro w hw
    exact (List.mem_append.mp hw).imp_right List.mem_singleton.mp
  refine { hI with
    ids := ?_
    agrees := fun w hw => ?_
    oneRouter := fun w hw w' hw' r hr hr' => ?_
    oneTransport := fun w hw w' hw' t ht ht' => ?_
    acked := fun t options h => hold (hI.acked t options h)
    allocated := fun t T hT hst => hold (hI.allocated t T hT hst)
    routerAnswers := fun i o r ho h => hold (hI.routerAnswers i o r ho h)
    transportAnswers := fun i o t ho h =>
      hold (hI.transportAnswers i o t ho h) }
  · rw [List.map_append, List.nodup_append]
    refine ⟨hI.ids, List.nodup_singleton _, fun a ha b hb hab => hn ?_⟩
    have hid : b = workerId := List.mem_singleton.mp hb
    rwa [← hid, ← hab]
  · rcases hnew w hw with hw | rfl
    · exact hI.agrees w hw
    · exact agrees_initial _ _
  · rcases hnew w hw with hw | rfl
    · rcases hnew w' hw' with hw' | rfl
      · exact hI.oneRouter w hw w' hw' r hr hr'
      · cases hr'
    · cases hr
  · rcases hnew w hw with hw | rfl
    · rcases hnew w' hw' with hw' | rfl
      · exact hI.oneTransport w hw w' hw' t ht ht'
      · cases ht'
    · cases ht

/-- **One step of the cluster** keeps the invariant. -/
theorem inv_step {tr : List (Out κ)} {s s' : Cluster κ} {a : Action κ}
    {obs : List (Out κ)} (hI : Inv tr s) (h : s.act a = some (s', obs)) :
    Inv (tr ++ obs) s' := by
  -- a message from the coordinator goes to all workers, the rest to one
  cases a with
  | startWorker workerId =>
      simp only [Cluster.act] at h
      split at h
      · cases h
      · rename_i hn
        cases h
        rw [List.append_nil]
        exact hI.startWorker hn
  | coordinator a =>
      simp only [Cluster.act] at h
      split at h
      · cases h
      · rename_i hans
        obtain ⟨c, hc, hp⟩ := Option.map_eq_some_iff.mp h
        cases hp
        -- no answer enters by this action, only by `deliver`
        refine hI.publish hc fun t options ha => ?_
        subst ha
        exact absurd rfl hans
  | worker i a =>
      simp only [Cluster.act] at h
      split at h
      · cases h
      · rename_i hmsg
        obtain ⟨w, hw, h⟩ := Option.bind_eq_some_iff.mp h
        obtain ⟨w', hw', hp⟩ := Option.map_eq_some_iff.mp h
        cases hp
        refine hI.worker hw (mediaStep ?_ (Bool.not_eq_true _ ▸ hmsg) hw')
        exact (hI.agrees w (List.mem_of_getElem? hw)).drop
          (List.Sublist.refl _) (List.Sublist.refl _)
  -- the answer that is delivered has left the queue
  | deliver i =>
      obtain ⟨a, ha, h⟩ := Option.map_eq_some_iff.mp h
      have hI' : Inv tr { s with answers := s.answers.eraseIdx i } :=
        { hI with
          acked := fun t options hm =>
            hI.acked t options (List.mem_of_mem_eraseIdx hm) }
      dsimp only at h
      split at h
      · cases h
        rw [List.append_nil]
        exact hI'
      · rename_i c hc
        cases h
        refine hI'.publish hc fun t options heq => ?_
        subst heq
        exact hI.acked t options (List.mem_of_getElem? ha)

/-- **Coordinator and workers agree in every run.** -/
theorem agreement_of_run {past : List (Cluster κ)} {s : Cluster κ}
    {tr : List (Out κ)} (h : (machine κ).Run anyStep past s tr) :
    Agreement tr s := by
  refine (h.invariant (fun s tr => Inv tr s) (fun s hs => ?_)
    fun s tr a s' obs hI _ hs => inv_step hI hs).agreement
  obtain rfl : s = Cluster.initial := hs
  exact inv_initial

end Runs

/-- Two workers; a member's producer transport is created and connected. -/
def connectProducer : List (Action Unit) :=
  [.startWorker 1, .startWorker 2, .coordinator (.mediaWorkerConnected 1),
    .coordinator (.mediaWorkerConnected 2),
    .coordinator (.createSpaceRequest "room" ⟨"r", ""⟩
      "subscription-driven" ()),
    .coordinator (.subscribeToSpaceRequest 1 "room" ()),
    .worker 0 (.fulfilled 0 (.router "caps")), .worker 0 (.resume 0),
    .deliver 0, .coordinator (.resume 0), .coordinator (.resume 0),
    .coordinator (.addMemberRequest 1 "room" ⟨"a"⟩ ⟨false, false⟩ ()),
    .coordinator (.resume 0), .worker 0 (.fulfilled 0 (.transport "params")),
    .deliver 0,
    .coordinator (.spaceUpdateStream "room"
      (.memberProducerConnectEvent 0 "dtls") ())]

/-- A connect reaches the one worker of two that has the transport. -/
theorem agreement_of_run_two : ∃ past s tr,
    (machine Unit).Run anyStep past s tr ∧
      (s.workers.map fun w => w.transports.keys) = [[0], []] ∧
      .coordinator (.transportUpdate 0 0 (.transportConnectEvent "dtls") ())
        ∈ tr ∧ Agreement tr s := by
  obtain ⟨past, s, tr, hr, hp⟩ := Machine.Run.exists_of_exec
    (M := machine Unit) (G := anyStep) (l := connectProducer)
    (p := fun r => decide
      ((r.2.1.workers.map fun w => w.transports.keys) = [[0], []] ∧
        .coordinator (.transportUpdate 0 0 (.transportConnectEvent "dtls")
          ()) ∈ r.2.2)) rfl (by decide)
  obtain ⟨hw, hm⟩ := of_decide_eq_true hp
  exact ⟨past, s, tr, hr, hw, hm, agreement_of_run hr⟩

end Twolk.Media
