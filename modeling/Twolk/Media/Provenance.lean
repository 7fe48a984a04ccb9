/-
  Twolk.Media.Provenance
  ──────────────────────
  **A MEMBER CONSUMES WHAT ITS PEER PRODUCED.**

  Ids of producers and consumers are made by the media library of one
  worker, travel as plain strings through the coordinator to a client, and
  are handed to the client's media device there.  Nothing on the way checks
  them.  The callbacks a transport update was published with, and the
  producing transport its consume names, tie them together.

  Main results:
    * `consume_acks`   — the ack of a consume names a producer that was
      created on the producer transport the target was allocated for, and
      acknowledged to the member that owns it,
    * `resume_found`   — once a consume was acknowledged, a resume for its
      transport is not refused for want of a consumer.
-/
import Twolk.Media.Consumes
import Twolk.Worker.Provenance

namespace Twolk.Media

open Twolk.Lib

variable {κ : Type}

/-! ## §1. What was published and seen. -/

/-- What worker `i` observed. -/
def own (i : WorkerId) (tr : List (Out κ)) :
    List (Worker.Out (UpdateCallback κ)) :=
  tr.filterMap fun
    | .worker j o => if j = i then some o else none
    | .coordinator _ => none

/-- The own trace of a worker is what it said in the whole one. -/
theorem mem_own {i : WorkerId} {tr : List (Out κ)}
    {o : Worker.Out (UpdateCallback κ)} :
    o ∈ own i tr ↔ .worker i o ∈ tr := by
  unfold own
  rw [List.mem_filterMap]
  constructor
  · rintro ⟨a, ha, heq⟩
    cases a with
    | coordinator => cases heq
    | worker j o' =>
        dsimp only at heq
        split at heq
        · rename_i hj
          cases heq
          exact hj ▸ ha
        · cases heq
  · exact fun h => ⟨_, h, if_pos rfl⟩

/-- The callbacks `u` were published with `update` for transport `t`. -/
def Published (tr : List (Out κ)) (u : UpdateCallback κ) (t : TransportId)
    (update : TransportUpdateC) : Prop :=
  u.update = update ∧
    .coordinator (.transportUpdate u.request t update u.cb) ∈ tr

/-- What has been published remains so. -/
theorem Published.mono {tr obs : List (Out κ)} {u : UpdateCallback κ}
    {t : TransportId} {update : TransportUpdateC}
    (h : Published tr u t update) : Published (tr ++ obs) u t update :=
  ⟨h.1, List.mem_append_left _ h.2⟩

/-! ## §2. The invariant. -/

/-- **Media ids are traced** through the cluster. -/
structure Provenance (F : String → Worker.MediaConsumer → Prop)
    (tr : List (Out κ)) (s : Cluster κ) : Prop where
  traced : ∀ w ∈ s.workers, Worker.Traced (Published tr) F
    (own w.workerId tr) { w with out := [] }
  observers : ∀ i o, .worker i o ∈ tr → ∃ w ∈ s.workers, w.workerId = i
  /-- A consume names what its target was allocated for. -/
  source : ∀ n t rtpCapabilities p cb,
    .coordinator (.transportUpdate n t
      (.transportConsumerConsumeEvent rtpCapabilities p) cb) ∈ tr →
    ∃ T, s.coordinator.transportHeap.get? t = some T ∧
      T.consumesFromTransportId = some p
  /-- A number is published once. -/
  once : ∀ n t update cb t' update' cb',
    .coordinator (.transportUpdate n t update cb) ∈ tr →
    .coordinator (.transportUpdate n t' update' cb') ∈ tr →
    t = t' ∧ update = update' ∧ cb = cb'

/-- After one party was replaced, a party is the new one or one of the others.
-/
theorem mem_set_cases {α β : Type} {f : α → β} {l : List α} {i : Nat}
    {a b v : α} (hf : (l.map f).Nodup) (hi : l[i]? = some a)
    (hv : v ∈ l.set i b) : v = b ∨ v ∈ l ∧ f v ≠ f a := by
  obtain ⟨j, hj, rfl⟩ := List.mem_iff_getElem.mp hv
  rw [List.length_set] at hj
  by_cases hij : i = j
  · subst hij
    exact .inl (List.getElem_set_self _)
  · rw [List.getElem_set_ne hij]
    refine .inr ⟨List.getElem_mem hj, fun heq => hij ?_⟩
    obtain ⟨hlt, rfl⟩ := List.getElem?_eq_some_iff.mp hi
    have hsame : l[j] = l[i] := List.inj_on_of_nodup_map hf
      (List.getElem_mem hj) (List.getElem_mem hlt) heq
    exact (List.Nodup.getElem_inj_iff (hf.of_map)).mp hsame.symm

section Step

variable [Callback κ] {F : String → Worker.MediaConsumer → Prop}
  {tr : List (Out κ)} {s : Cluster κ} {a : Coordinator.Action κ}
  {c : Coordinator.Coord κ}

/-- The observations of one worker in a stretch of the coordinator. -/
theorem mem_own_publish (hI : Inv tr s)
    (hp : Coordinator.Publishes { s.coordinator with out := [] } a c)
    {w : SfuWorker κ} (hw : w ∈ s.workers)
    (o : Worker.Out (UpdateCallback κ)) :
    o ∈ own w.workerId (tr ++ (s.publish c).2) ↔
      o ∈ own w.workerId tr ++ (Cluster.receiveAll c.out w).out := by
  have hid := (hI.received hp hw).workerId
  rw [List.mem_append, mem_own, mem_own, List.mem_append]
  refine or_congr_right ⟨fun h => ?_, fun h => ?_⟩
  · rcases mem_publish h with ⟨o', -, heq⟩ | ⟨w', hw', o', ho', heq⟩
    · cases heq
    · obtain ⟨hi, rfl⟩ := Out.worker.inj heq
      rw [(hI.received hp hw').workerId] at hi
      have hi : w.workerId = w'.workerId := hi
      obtain rfl := List.inj_on_of_nodup_map hI.ids hw hw' hi
      exact ho'
  · have := worker_mem_publish hw h
    rwa [hid] at this

/-- A setup request adds nothing about media. -/
theorem receive_adds {P : UpdateCallback κ → TransportId →
      TransportUpdateC → Prop} {old : List (Worker.Out (UpdateCallback κ))}
    (w : SfuWorker κ) {o : Coordinator.Out κ}
    (ho : ∀ n t u cb, o ≠ .transportUpdate n t u cb) :
    Worker.Adds P F old w (Cluster.receive w o) := by
  cases o with
  | newRouterRequest r workerId =>
      show Worker.Adds P F old w (w.onNewRouterRequest r workerId)
      unfold Worker.SfuWorker.onNewRouterRequest
      split
      · exact Worker.startSetup_adds w fun _ _ => .createRouter
      · exact .refl w
  | newWebRtcTransportRequest r t isProducer =>
      show Worker.Adds P F old w
        (w.onNewWebRtcTransportRequest r t isProducer)
      unfold Worker.SfuWorker.onNewWebRtcTransportRequest
      split
      · exact Worker.startSetup_adds w fun _ _ => .createWebRtcTransport
      · exact .refl w
  | transportUpdate n t u cb => exact absurd rfl (ho n t u cb)
  | _ => exact .refl w

/-- By induction on the messages, none of which is an update. -/
theorem foldl_receive_adds {P : UpdateCallback κ → TransportId →
      TransportUpdateC → Prop} {old : List (Worker.Out (UpdateCallback κ))}
    {l : List (Coordinator.Out κ)}
    (hl : ∀ o ∈ l, ∀ n t u cb, o ≠ .transportUpdate n t u cb) :
    ∀ w : SfuWorker κ,
      Worker.Adds P F old w (l.foldl Cluster.receive w) := by
  induction l with
  | nil => exact fun w => .refl w
  | cons o l ih =>
      intro w
      have h : Worker.Adds P F old w (Cluster.receive w o) :=
        receive_adds w (hl o List.mem_cons_self)
      exact h.trans (ih (fun o ho => hl o (List.mem_cons_of_mem _ ho)) _)

/-- The update a stretch publishes, if any: alone, under a new number, and
naming what its target consumes from. -/
theorem Inv.publishes_update (hI : Inv tr s)
    (hc : Coordinator.Coord.act { s.coordinator with out := [] } a
      = some c) {n : Nat} {t : TransportId} {u : TransportUpdateC} {cb : κ}
    (ho : .transportUpdate n t u cb ∈ c.out) :
    c.out = [.transportUpdate n t u cb] ∧ s.coordinator.updateIdGen ≤ n ∧
      ∃ T, s.coordinator.transportHeap.get? t = some T ∧
        ∀ rtpCapabilities p,
          u = .transportConsumerConsumeEvent rtpCapabilities p →
          T.consumesFromTransportId = some p := by
  have hs : (Coordinator.machine κ).step s.coordinator a
    = some (c, c.out) := by
    simp [Coordinator.machine, hc]
  obtain ⟨hout, uuid, update, T, rfl, htarget, hT, -, hu⟩ :=
    Coordinator.transportUpdate_step hI.reachable hs ho
  refine ⟨hout, ?_, T, hT, fun caps p heq => ?_⟩
  · obtain ⟨k, -, hids⟩ := (hI.publishes hc).updateIds
    have hm : n ∈ c.out.filterMap Coordinator.Out.updateSent :=
      List.mem_filterMap.mpr ⟨_, ho, rfl⟩
    rw [hids] at hm
    obtain ⟨i, -, rfl⟩ := List.mem_range'.mp hm
    exact Nat.le_add_right _ _
  · subst heq
    exact (Coordinator.consume_source hI.coordWF.transport htarget hT
      hu).1

/-- What the messages of one stretch add at a worker. -/
theorem Provenance.receiveAll_adds (hI : Inv tr s)
    (hP : Provenance F tr s)
    (hc : Coordinator.Coord.act { s.coordinator with out := [] } a = some c)
    {w : SfuWorker κ} (hw : w ∈ s.workers) :
    Worker.Adds (Published (tr ++ (s.publish c).2)) F (own w.workerId tr)
      { w with out := [] } (Cluster.receiveAll c.out w) := by
  by_cases hup : ∃ n t u cb, .transportUpdate n t u cb ∈ c.out
  · obtain ⟨n, t, u, cb, ho⟩ := hup
    have hpub : .coordinator (.transportUpdate n t u cb)
        ∈ (s.publish c).2 :=
      List.mem_append_left _ (List.mem_map_of_mem ho)
    obtain ⟨hout, -, -⟩ := hI.publishes_update hc ho
    unfold Cluster.receiveAll
    rw [hout]
    show Worker.Adds _ _ _ _
      (Worker.SfuWorker.onTransportUpdate _ t u
        (⟨n, u, cb⟩ : UpdateCallback κ))
    cases hX : w.transports.get? t with
    | none =>
        unfold Worker.SfuWorker.onTransportUpdate
        rw [hX]
        exact .refl _
    | some X =>
        have hnow : Published (tr ++ (s.publish c).2) ⟨n, u, cb⟩ t u :=
          ⟨rfl, List.mem_append_right _ hpub⟩
        have hcur : Worker.Traced (Published (tr ++ (s.publish c).2)) F
            (own w.workerId tr) { w with out := [] } :=
          (hP.traced w hw).mono (fun _ _ _ h => h.mono) fun _ => Iff.rfl
        have hsetup : Worker.SetupWF { w with out := [] } :=
          { (hI.agrees w hw).setup with }
        exact Worker.onTransportUpdate_adds hsetup hcur hX hnow
  · exact foldl_receive_adds
      (fun o ho n t u cb heq => hup ⟨n, t, u, cb, heq ▸ ho⟩) _

/-- **A stretch of the coordinator keeps media ids traced.** -/
theorem Provenance.publish (hI : Inv tr s) (hP : Provenance F tr s)
    (hc : Coordinator.Coord.act { s.coordinator with out := [] } a
      = some c) :
    Provenance F (tr ++ (s.publish c).2) (s.publish c).1 := by
  have hp := hI.publishes hc
  have hnew : ∀ {n t u cb},
      .coordinator (.transportUpdate n t u cb) ∈ (s.publish c).2 →
      .transportUpdate n t u cb ∈ c.out := by
    intro n t u cb h
    rcases mem_publish h with ⟨o', ho', heq⟩ | ⟨_, _, _, _, heq⟩
    · cases heq
      exact ho'
    · cases heq
  constructor
  case traced =>
    intro w' hw'
    obtain ⟨w, hw, rfl⟩ := List.mem_map.mp hw'
    have hid := (hI.received hp hw).workerId
    have hid : (Cluster.receiveAll c.out w).workerId = w.workerId := hid
    have ht := (hP.receiveAll_adds hI hc hw).traced ((hP.traced w hw).mono
      (fun _ _ _ h => h.mono) fun _ => Iff.rfl)
    refine ht.mono (fun _ _ _ h => h) fun o => ?_
    rw [List.append_nil, hid]
    exact mem_own_publish hI hp hw o
  case observers =>
    have hold : ∀ {i}, (∃ w ∈ s.workers, w.workerId = i) →
        ∃ w ∈ (s.publish c).1.workers, w.workerId = i := by
      intro i ⟨w, hw, h⟩
      exact ⟨_, List.mem_map_of_mem hw, (hI.received hp hw).workerId.trans h⟩
    intro i o ho
    rcases List.mem_append.mp ho with ho | ho
    · exact hold (hP.observers i o ho)
    · rcases mem_publish ho with ⟨_, _, heq⟩ | ⟨w, hw, o', -, heq⟩
      · cases heq
      · obtain ⟨rfl, -⟩ := Out.worker.inj heq
        exact ⟨_, List.mem_map_of_mem hw, rfl⟩
  case source =>
    intro n t caps p cb ho
    have hex : ∃ T, s.coordinator.transportHeap.get? t = some T ∧
        T.consumesFromTransportId = some p := by
      rcases List.mem_append.mp ho with ho | ho
      · exact hP.source n t caps p cb ho
      · obtain ⟨-, -, T, hT, hsrc⟩ := hI.publishes_update hc (hnew ho)
        exact ⟨T, hT, hsrc caps p rfl⟩
    obtain ⟨T, hT, hsrc⟩ := hex
    obtain ⟨T', hT', hs⟩ := hp.shape t T hT
    exact ⟨T', hT', (congrArg Prod.snd hs).trans hsrc⟩
  case once =>
    -- a new number is above those in use, and alone in its stretch
    have hfresh : ∀ {n t u cb t' u' cb'},
        .coordinator (.transportUpdate n t u cb) ∈ tr →
        .coordinator (.transportUpdate n t' u' cb') ∉ (s.publish c).2 := by
      intro n t u cb t' u' cb' h h'
      obtain ⟨-, hge, -⟩ := hI.publishes_update hc (hnew h')
      have hlt := hI.updates n t u cb h
      omega
    intro n t u cb t' u' cb' h h'
    rcases List.mem_append.mp h with h | h <;>
      rcases List.mem_append.mp h' with h' | h'
    · exact hP.once n t u cb t' u' cb' h h'
    · exact absurd h' (hfresh h)
    · exact absurd h (hfresh h')
    · obtain ⟨hout, -, -⟩ := hI.publishes_update hc (hnew h)
      have h' := hnew h'
      rw [hout] at h'
      cases List.mem_singleton.mp h'
      exact ⟨rfl, rfl, rfl⟩

/-- What a step of a worker adds is accounted for. -/
theorem Provenance.worker_adds (hI : Inv tr s) (hP : Provenance F tr s)
    {w w' : SfuWorker κ} {b : Worker.Action (UpdateCallback κ)}
    (hw : w ∈ s.workers) (hb : isMessage b = false)
    (hw' : Worker.SfuWorker.act { w with out := [] } b = some w')
    (hf : Worker.Fulfils F w b) (obs : List (Out κ)) :
    Worker.Adds (Published (tr ++ obs)) F (own w.workerId tr)
      { w with out := [] } w' := by
  have hsetup : Worker.SetupWF { w with out := [] } :=
    { (hI.agrees w hw).setup with }
  have hcur : Worker.Traced (Published (tr ++ obs)) F
      (own w.workerId tr) { w with out := [] } :=
    (hP.traced w hw).mono (fun _ _ _ h => h.mono) fun _ => Iff.rfl
  refine Worker.act_adds hsetup hcur hw' hf ?_
  rintro id update cb rfl
  cases hb

/-- **A step of a worker keeps media ids traced.** -/
theorem Provenance.worker (hI : Inv tr s) (hP : Provenance F tr s)
    {i : Nat} {w w' : SfuWorker κ}
    {b : Worker.Action (UpdateCallback κ)}
    (hi : s.workers[i]? = some w) (hb : isMessage b = false)
    (hw' : Worker.SfuWorker.act { w with out := [] } b = some w')
    (hf : Worker.Fulfils F w b) :
    Provenance F (tr ++ Cluster.observed w') { s with
      workers := s.workers.set i w'
      answers := s.answers ++ Cluster.answered w' } := by
  have hw := List.mem_of_getElem? hi
  have hstep : MediaStep s.coordinator { w with out := [] } w' :=
    mediaStep ((hI.agrees w hw).drop (List.Sublist.refl _)
      (List.Sublist.refl _)) hb hw'
  have hid : w'.workerId = w.workerId := hstep.workerId
  -- what was published stays published in the longer trace
  have hcur : Worker.Traced (Published (tr ++ Cluster.observed w')) F
      (own w.workerId tr) { w with out := [] } :=
    (hP.traced w hw).mono (fun _ _ _ h => h.mono) fun _ => Iff.rfl
  have ht := (hP.worker_adds hI hw hb hw' hf (Cluster.observed w')).traced
    hcur
  -- the worker's own part of the trace grows by what it has sent
  have hself : ∀ o, o ∈ own w'.workerId (tr ++ Cluster.observed w') ↔
      o ∈ own w.workerId tr ++ w'.out := by
    intro o
    rw [hid, List.mem_append, mem_own, mem_own, List.mem_append]
    refine or_congr_right ⟨fun h => ?_, fun h => ?_⟩
    · obtain ⟨o', ho', heq⟩ := List.mem_map.mp h
      obtain ⟨-, rfl⟩ := Out.worker.inj heq
      exact ho'
    · exact List.mem_map.mpr ⟨o, h, by rw [hid]⟩
  -- a worker's step publishes nothing of the coordinator
  have hcoord : ∀ {o}, .coordinator o ∈ tr ++ Cluster.observed w' →
      .coordinator o ∈ tr := by
    intro o h
    rcases List.mem_append.mp h with h | h
    · exact h
    · obtain ⟨_, -, heq⟩ := List.mem_map.mp h
      cases heq
  -- clause by clause: the worker that acted, or another one
  constructor
  case traced =>
    intro v hv
    rcases mem_set_cases hI.ids hi hv with rfl | ⟨hv, hne⟩
    · refine ht.mono (fun _ _ _ h => h) fun o => ?_
      rw [List.append_nil]
      exact hself o
    · refine (hP.traced v hv).mono (fun _ _ _ h => h.mono) fun o => ?_
      rw [List.append_nil, List.append_nil, mem_own, mem_own,
        List.mem_append]
      refine ⟨fun h => h.resolve_right fun h => ?_, .inl⟩
      obtain ⟨_, -, heq⟩ := List.mem_map.mp h
      exact hne ((Out.worker.inj heq).1.symm.trans hid)
  case observers =>
    intro j o ho
    rcases List.mem_append.mp ho with ho | ho
    · exact exists_mem_set hi (fun h => hid.trans h) (hP.observers j o ho)
    · obtain ⟨o', -, heq⟩ := List.mem_map.mp ho
      exact ⟨w', List.mem_set (List.getElem?_eq_some_iff.mp hi).1 w',
        (Out.worker.inj heq).1⟩
  case source =>
    exact fun n t caps p cb ho => hP.source n t caps p cb (hcoord ho)
  case once =>
    exact fun n t u cb t' u' cb' h h' =>
      hP.once n t u cb t' u' cb' (hcoord h) (hcoord h')

omit [Callback κ] in
/-- A worker starts, with nothing observed. -/
theorem Provenance.startWorker (hP : Provenance F tr s)
    {workerId : WorkerId}
    (hn : workerId ∉ s.workers.map Worker.SfuWorker.workerId) :
    Provenance F tr { s with
      workers := s.workers ++ [Worker.SfuWorker.initial workerId] } where
  traced w hw := by
    rcases List.mem_append.mp hw with hw | hw
    · exact hP.traced w hw
    · rw [List.mem_singleton.mp hw]
      have hempty : own workerId tr = [] := by
        refine List.eq_nil_iff_forall_not_mem.mpr fun o ho => hn ?_
        obtain ⟨v, hv, hid⟩ := hP.observers _ o (mem_own.mp ho)
        exact hid ▸ List.mem_map_of_mem hv
      show Worker.Traced _ F (own workerId tr) _
      rw [hempty]
      exact Worker.traced_initial workerId
  observers i o ho := by
    obtain ⟨w, hw, h⟩ := hP.observers i o ho
    exact ⟨w, List.mem_append_left _ hw, h⟩
  source := hP.source
  once := hP.once

/-! ## §3. Every run. -/

/-- The media library fulfils what it was asked for: a consume with a
consumer `F` admits. -/
def mediaFulfils (F : String → Worker.MediaConsumer → Prop) :
    Guard (Cluster κ) (Action κ) (Out κ)
  | _, s, .worker i b => ∀ w ∈ s.workers[i]?, Worker.Fulfils F w b
  | _, _, _ => True

omit [Callback κ] in
instance [∀ x c, Decidable (F x c)] (tr : List (Out κ)) (s : Cluster κ) :
    ∀ a, Decidable (mediaFulfils F tr s a)
  | .worker i b => decidable_of_iff
      (∀ w ∈ s.workers[i]?.toList, Worker.Fulfils F w b)
      (forall_congr' fun _ => imp_congr_left Option.mem_toList)
  | .startWorker _ | .coordinator _ | .deliver _ => .isTrue trivial

/-- **One step of the cluster** keeps every media id accounted for. -/
theorem provenance_step {s' : Cluster κ} {a : Action κ}
    {obs : List (Out κ)} (hI : Inv tr s) (hP : Provenance F tr s)
    (hg : mediaFulfils F tr s a) (h : s.act a = some (s', obs)) :
    Provenance F (tr ++ obs) s' := by
  -- as in `inv_step`, by who acts
  cases a with
  | startWorker workerId =>
      simp only [Cluster.act] at h
      split at h
      · cases h
      · rename_i hn
        cases h
        rw [List.append_nil]
        exact hP.startWorker hn
  | coordinator a =>
      simp only [Cluster.act] at h
      split at h
      · cases h
      · obtain ⟨c, hc, hp⟩ := Option.map_eq_some_iff.mp h
        cases hp
        exact hP.publish hI hc
  | worker i b =>
      simp only [Cluster.act] at h
      split at h
      · cases h
      · rename_i hmsg
        obtain ⟨w, hw, h⟩ := Option.bind_eq_some_iff.mp h
        obtain ⟨w', hw', hp⟩ := Option.map_eq_some_iff.mp h
        cases hp
        exact hP.worker hI hw (Bool.not_eq_true _ ▸ hmsg) hw' (hg w hw)
  -- the answer that is delivered has left the queue
  | deliver i =>
      obtain ⟨a, ha, h⟩ := Option.map_eq_some_iff.mp h
      have hI' : Inv tr { s with answers := s.answers.eraseIdx i } :=
        { hI with
          acked := fun t options hm =>
            hI.acked t options (List.mem_of_mem_eraseIdx hm) }
      have hP' : Provenance F tr
          { s with answers := s.answers.eraseIdx i } := { hP with }
      dsimp only at h
      split at h
      · cases h
        rw [List.append_nil]
        exact hP'
      · rename_i c hc
        cases h
        exact hP'.publish hI' hc

/-- In every run in which the media library keeps its word. -/
theorem provenance_of_run {past : List (Cluster κ)}
    (h : (machine κ).Run (mediaFulfils F) past s tr) :
    Inv tr s ∧ Provenance F tr s := by
  refine h.invariant (fun s tr => Inv tr s ∧ Provenance F tr s)
    (fun s hs => ?_) fun s tr a s' obs hI hg hs => ?_
  · obtain rfl : s = Cluster.initial := hs
    exact ⟨inv_initial, fun _ h => (by cases h), fun _ _ h => (by cases h),
      fun _ _ _ _ _ h => (by cases h), fun _ _ _ _ _ _ _ h => (by cases h)⟩
  · exact ⟨inv_step hI.1 hs, provenance_step hI.1 hI.2 hg hs⟩

end Step

/-! ## §4. What an ack says. -/

/-- Producer `x` was created for the owner of producer transport `p`, who
was told so. -/
def ProducedFor (tr : List (Out κ)) (i : WorkerId) (p : TransportId)
    (x : String) : Prop :=
  .worker i (.produced p x) ∈ tr ∧ ∃ caller kind rtpParameters,
    .coordinator (.transportUpdate caller.cb.request p
      (.transportProducerProduceEvent kind rtpParameters) caller.cb.cb) ∈ tr ∧
    .worker i (.ack caller (some ⟨x, none, none, none⟩)) ∈ tr

/-- `t` was allocated to consume from `p`, the producer transport of another
member of the same space. -/
def ReceivesFrom (c : Coordinator.Coord κ) (t p : TransportId) : Prop :=
  ∃ T S, c.transportHeap.get? t = some T ∧ c.transportHeap.get? p = some S ∧
    T.consumesFromTransportId = some p ∧ S.consumesFromTransportId = none ∧
    S.owningMember ≠ T.owningMember ∧
    c.spaceOf S.owningMember = c.spaceOf T.owningMember

/-- What worker `i` may answer to an update for transport `t`. -/
def AckSays (tr : List (Out κ)) (c : Coordinator.Coord κ) (i : WorkerId)
    (t : TransportId) (resp : Option TransportUpdateAck) :
    TransportUpdateC → Prop
  | .transportConnectEvent _ | .transportConsumerResumeEvent => resp = none
  | .transportProducerProduceEvent _ _ => ∃ x,
      resp = some ⟨x, none, none, none⟩ ∧ ProducedFor tr i t x
  | .transportConsumerConsumeEvent _ p => ∃ id x kind rtpParameters,
      resp = some ⟨id, some x, some kind, some rtpParameters⟩ ∧
        ProducedFor tr i p x ∧ ReceivesFrom c t p

/-- The consumer is one of producer `x`. -/
def consumesFrom (x : String) (c : Worker.MediaConsumer) : Prop :=
  c.producerId = x

instance (x : String) (c : Worker.MediaConsumer) :
    Decidable (consumesFrom x c) :=
  inferInstanceAs (Decidable (c.producerId = x))

section Acks

variable [Callback κ] {F : String → Worker.MediaConsumer → Prop}
  {tr : List (Out κ)} {s : Cluster κ} {past : List (Cluster κ)}

omit [Callback κ] in
/-- A created producer was asked for and acknowledged. -/
theorem Provenance.producedFor (hP : Provenance F tr s) {w : SfuWorker κ}
    (hw : w ∈ s.workers) {p : TransportId} {x : String}
    (hx : .worker w.workerId (.produced p x) ∈ tr) :
    ProducedFor tr w.workerId p x := by
  have hj := (hP.traced w hw).justified (.produced p x)
    (List.mem_append_left _ (mem_own.mpr hx))
  obtain ⟨caller, kind, rtp, ⟨-, hpub⟩, hack⟩ := hj
  rw [List.append_nil, mem_own] at hack
  exact ⟨hx, caller, kind, rtp, hpub, hack⟩

/-- A published consume is for a transport that receives from what it
names. -/
theorem Provenance.receivesFrom (hI : Inv tr s) (hP : Provenance F tr s)
    {n : Nat} {t p : TransportId} {rtpCapabilities : Json} {cb : κ}
    (h : .coordinator (.transportUpdate n t
      (.transportConsumerConsumeEvent rtpCapabilities p) cb) ∈ tr) :
    ReceivesFrom s.coordinator t p := by
  obtain ⟨T, hT, hsrc⟩ := hP.source n t _ p cb h
  obtain ⟨S, hS, hn, hne, hsp⟩ := hI.coordWF.transport.source t T p hT hsrc
  exact ⟨T, S, hT, hS, hsrc, hn, hne, hsp⟩

/-- **Every ack answers a published update, with the media data of what the
update is about.**  In every run in which the media library fulfils a
consume with a consumer of the producer it was asked for. -/
theorem acks_say (h : (machine κ).Run (mediaFulfils consumesFrom) past s tr)
    {i : WorkerId} {caller : Worker.Caller (UpdateCallback κ)}
    {resp : Option TransportUpdateAck}
    (hack : .worker i (.ack caller resp) ∈ tr) :
    ∃ t u, .coordinator (.transportUpdate caller.cb.request t u caller.cb.cb)
      ∈ tr ∧ AckSays tr s.coordinator i t resp u := by
  obtain ⟨hI, hP⟩ := provenance_of_run h
  obtain ⟨w, hw, rfl⟩ := hP.observers i _ hack
  have hj : Worker.Acked (Published tr) consumesFrom
      (own w.workerId tr ++ []) { w with out := [] } caller resp :=
    (hP.traced w hw).justified (.ack caller resp)
      (List.mem_append_left _ (mem_own.mpr hack))
  rw [List.append_nil] at hj
  cases hj with
  | connect hp => exact ⟨_, _, hp.2, rfl⟩
  | resume hp => exact ⟨_, _, hp.2, rfl⟩
  | produce hp hx =>
      exact ⟨_, _, hp.2, _, rfl, hP.producedFor hw (mem_own.mp hx)⟩
  | @consume c hc =>
      obtain ⟨t, caps, p, x, hp, hx, hf, -⟩ := hc
      have hf : c.producerId = x := hf
      exact ⟨t, _, hp.2, c.id, x, c.kind, c.rtpParameters, by rw [hf],
        hP.producedFor hw (mem_own.mp hx), hP.receivesFrom hI hp.2⟩

/-! ## §5. What a refused resume says. -/

/-- A refused resume found no consumer where the stretch started. -/
theorem Provenance.refused (hI : Inv tr s) (hP : Provenance F tr s)
    {a : Action κ} {s' : Cluster κ} {obs : List (Out κ)}
    (hg : mediaFulfils F tr s a) (h : s.act a = some (s', obs))
    {i : WorkerId} {caller : Worker.Caller (UpdateCallback κ)}
    (hn : .worker i (.nack caller .consumerNotFound) ∈ obs) :
    ∃ w ∈ s.workers, ∃ w' ∈ s'.workers, w'.workerId = w.workerId ∧
      Worker.Refused (Published (tr ++ obs)) { w with out := [] } w'
        caller := by
  -- what a stretch adds says of each nack what it refused
  have hrefused : ∀ {old} {w w' : SfuWorker κ},
      Worker.Adds (Published (tr ++ obs)) F old { w with out := [] } w' →
      .nack caller .consumerNotFound ∈ w'.out →
      Worker.Refused (Published (tr ++ obs)) { w with out := [] } w'
        caller := by
    intro old w w' hadds hn
    obtain ⟨l, hl, -, hr⟩ := hadds.out
    have hl : w'.out = l := hl
    exact hr caller (hl ▸ hn)
  -- the coordinator's messages are handled in the same step
  have hpublish : ∀ {s₀ : Cluster κ} {b c}, Inv tr s₀ → Provenance F tr s₀ →
      s₀.workers = s.workers →
      Coordinator.Coord.act { s₀.coordinator with out := [] } b = some c →
      s₀.publish c = (s', obs) → ∃ w ∈ s.workers, ∃ w' ∈ s'.workers,
        w'.workerId = w.workerId ∧ Worker.Refused (Published (tr ++ obs))
          { w with out := [] } w' caller := by
    intro s₀ b c hI hP hs hc hp
    obtain ⟨rfl, rfl⟩ := Prod.mk.inj hp
    rcases mem_publish hn with ⟨_, _, heq⟩ | ⟨w, hw, o', ho', heq⟩
    · cases heq
    · obtain ⟨-, rfl⟩ := Out.worker.inj heq
      exact ⟨w, hs ▸ hw, _, List.mem_map_of_mem hw,
        (hI.received (hI.publishes hc) hw).workerId,
        hrefused (hP.receiveAll_adds hI hc hw) ho'⟩
  -- the nack came from a stretch of one worker, whoever made it act
  cases a with
  | startWorker workerId =>
      simp only [Cluster.act] at h
      split at h
      · cases h
      · cases h
        cases hn
  | coordinator a =>
      simp only [Cluster.act] at h
      split at h
      · cases h
      · obtain ⟨c, hc, hp⟩ := Option.map_eq_some_iff.mp h
        exact hpublish hI hP rfl hc hp
  | worker j b =>
      simp only [Cluster.act] at h
      split at h
      · cases h
      · rename_i hmsg
        obtain ⟨w, hw, h⟩ := Option.bind_eq_some_iff.mp h
        obtain ⟨w', hw', hp⟩ := Option.map_eq_some_iff.mp h
        cases hp
        obtain ⟨o', ho', heq⟩ := List.mem_map.mp hn
        obtain ⟨-, rfl⟩ := Out.worker.inj heq
        have hmem := List.mem_of_getElem? hw
        have hb : isMessage b = false := Bool.not_eq_true _ ▸ hmsg
        have hstep : MediaStep s.coordinator { w with out := [] } w' :=
          mediaStep ((hI.agrees w hmem).drop (List.Sublist.refl _)
            (List.Sublist.refl _)) hb hw'
        exact ⟨w, hmem, w',
          List.mem_set (List.getElem?_eq_some_iff.mp hw).1 w',
          hstep.workerId,
          hrefused (hP.worker_adds hI hmem hb hw' (hg w hw) _) ho'⟩
  | deliver j =>
      obtain ⟨a, -, h⟩ := Option.map_eq_some_iff.mp h
      dsimp only at h
      split at h
      · cases h
        cases hn
      · rename_i c hc
        have hI' : Inv tr { s with answers := s.answers.eraseIdx j } :=
          { hI with
            acked := fun t options hm =>
              hI.acked t options (List.mem_of_mem_eraseIdx hm) }
        exact hpublish hI' { hP with } rfl hc h

omit [Callback κ] in
/-- A run in which nothing is asked of the media library. -/
theorem mediaFulfils_true (tr : List (Out κ)) (s : Cluster κ)
    (a : Action κ) : mediaFulfils (fun _ _ => True) tr s a := by
  unfold mediaFulfils
  split
  · intro w _
    unfold Worker.Fulfils
    split
    · exact fun _ _ _ _ => trivial
    · trivial
  · trivial

omit [Callback κ] in
/-- The consumer of an acknowledged consume is registered. -/
theorem Provenance.consumerOf (hP : Provenance F tr s) {w : SfuWorker κ}
    (hw : w ∈ s.workers) {caller : Worker.Caller (UpdateCallback κ)}
    {resp : Option TransportUpdateAck} {t p : TransportId}
    {rtpCapabilities : Json} {cb : κ}
    (hpub : .coordinator (.transportUpdate caller.cb.request t
      (.transportConsumerConsumeEvent rtpCapabilities p) cb) ∈ tr)
    (hack : .worker w.workerId (.ack caller resp) ∈ tr) :
    (w.consumerOf t).isSome = true := by
  have hj : Worker.Acked (Published tr) F (own w.workerId tr ++ [])
      { w with out := [] } caller resp :=
    (hP.traced w hw).justified (.ack caller resp)
      (List.mem_append_left _ (mem_own.mpr hack))
  have honce := fun t' u cb' h => hP.once _ t' u cb' _ _ _ h hpub
  cases hj with
  | connect hp => cases (honce _ _ _ hp.2).2.1
  | resume hp => cases (honce _ _ _ hp.2).2.1
  | produce hp => cases (honce _ _ _ hp.2).2.1
  | consume hc =>
      obtain ⟨t', caps, p', x, hp, -, -, hc⟩ := hc
      obtain ⟨rfl, -, -⟩ := honce _ _ _ hp.2
      exact hc

omit [Callback κ] in
/-- A consumer is on a transport of its worker. -/
theorem mem_transports_of_consumerOf {w : SfuWorker κ} {t : TransportId}
    (h : (w.consumerOf t).isSome = true) : t ∈ w.transports.keys := by
  rw [JsMap.mem_keys]
  by_contra hn
  rw [Option.not_isSome_iff_eq_none] at hn
  rw [Worker.SfuWorker.consumerOf, hn] at h
  cases h

/-- **After a consume was acknowledged, a resume for its transport finds the
consumer.**  In every run, whatever the media library answers. -/
theorem resume_found (h : (machine κ).Run anyStep past s tr)
    {a : Action κ} {s' : Cluster κ} {obs : List (Out κ)}
    (hs : (machine κ).step s a = some (s', obs))
    {i j : WorkerId} {consume resume : Worker.Caller (UpdateCallback κ)}
    {resp : Option TransportUpdateAck} {t p : TransportId}
    {rtpCapabilities : Json} {cb cb' : κ}
    (hconsume : .coordinator (.transportUpdate consume.cb.request t
      (.transportConsumerConsumeEvent rtpCapabilities p) cb) ∈ tr)
    (hack : .worker i (.ack consume resp) ∈ tr)
    (hresume : .coordinator (.transportUpdate resume.cb.request t
      .transportConsumerResumeEvent cb') ∈ tr ++ obs) :
    .worker j (.nack resume .consumerNotFound) ∉ obs := by
  intro hn
  obtain ⟨hI, hP⟩ := provenance_of_run
    (h.mono fun tr s a _ => mediaFulfils_true tr s a)
  have hg := mediaFulfils_true tr s a
  obtain ⟨w, hw, w', hw', hid, t', hp, ht, hc⟩ := hP.refused hI hg hs hn
  have hI' : Inv (tr ++ obs) s' := inv_step hI hs
  have hP' := provenance_step hI hP hg hs
  obtain ⟨rfl, -, -⟩ := hP'.once _ _ _ _ _ _ _ hp.2 hresume
  -- the consume was acknowledged where its consumer is registered, before
  -- the step and after it
  obtain ⟨v, hv, rfl⟩ := hP.observers i _ hack
  obtain ⟨v', hv', hvid⟩ := hP'.observers v.workerId _
    (List.mem_append_left obs hack)
  have hcv := hP.consumerOf hv hconsume hack
  have hcv' := hP'.consumerOf hv' (List.mem_append_left obs hconsume)
    (hvid.symm ▸ List.mem_append_left obs hack)
  -- a transport is at one worker
  have hone := hI'.oneTransport v' hv' w' hw' t'
    (assigned_of_registered (hI'.agrees v' hv').setup
      (mem_transports_of_consumerOf hcv'))
    (assigned_of_registered (hI'.agrees w' hw').setup ht)
  obtain rfl : v = w := List.inj_on_of_nodup_map hI.ids hv hw
    (hvid.symm.trans (hone.trans hid))
  have hcv : (Worker.SfuWorker.consumerOf { v with out := [] } t').isSome
    = true := hcv
  rw [hc] at hcv
  cases hcv

end Acks

/-! ## §6. A consume, from end to end. -/

section Examples

/-- The second member consumes the first one, which produces in between, and
resumes. -/
def consumeAcked : List (Action Unit) :=
  joinsOverlap ++ [.worker 0 (.fulfilled 0 (.transport "0")), .deliver 0,
    .coordinator (.spaceUpdateStream "room"
      (.memberProducerProduceEvent 0 "audio" "rtp") ()),
    consumeFirst, .worker 0 (.fulfilled 1 (.producer ⟨"x"⟩)),
    .worker 0 (.fulfilled 1 (.consumer ⟨"c", "x", "audio", "rtp"⟩)),
    .worker 0 (.resume 0)]

/-- A consume is acked with the consumer of the right producer. -/
theorem acks_say_consume : ∃ past s tr,
    (machine Unit).Run (mediaFulfils consumesFrom) past s tr ∧
      ∃ caller, .worker 1 (.ack caller
        (some ⟨"c", some "x", some "audio", some "rtp"⟩)) ∈ tr ∧
      ∃ t u, .coordinator (.transportUpdate caller.cb.request t u
        caller.cb.cb) ∈ tr ∧ AckSays tr s.coordinator 1 t
          (some ⟨"c", some "x", some "audio", some "rtp"⟩) u := by
  obtain ⟨past, s, tr, hr, hp⟩ := Machine.Run.exists_of_exec
    (M := machine Unit) (G := mediaFulfils consumesFrom)
    (l := consumeAcked)
    (p := fun r => decide (.worker 1 (.ack ⟨1, ⟨1,
      .transportConsumerConsumeEvent "rtp" 0, ()⟩⟩
        (some ⟨"c", some "x", some "audio", some "rtp"⟩)) ∈ r.2.2))
    rfl (by decide)
  have hack := of_decide_eq_true hp
  exact ⟨past, s, tr, hr, _, hack, acks_say hr hack⟩

/-- It resumes what it consumes. -/
def resumeFirst : Action Unit :=
  .coordinator (.spaceUpdateStream "room" (.memberConsumerResumeEvent 1 0)
    ())

/-- A resume after its consume finds the consumer. -/
theorem resume_found_acked : ∃ past s tr s' obs,
    (machine Unit).Run anyStep past s tr ∧
      (machine Unit).step s resumeFirst = some (s', obs) ∧
      .coordinator (.transportUpdate 2 3 .transportConsumerResumeEvent ())
        ∈ tr ++ obs ∧
      .worker 1 (.nack ⟨2, ⟨2, .transportConsumerResumeEvent, ()⟩⟩
        .consumerNotFound) ∉ obs := by
  obtain ⟨past, s, tr, hr, hp⟩ := Machine.Run.exists_of_exec
    (M := machine Unit) (G := anyStep) (l := consumeAcked)
    (p := fun r => decide (.coordinator (.transportUpdate 1 3
        (.transportConsumerConsumeEvent "rtp" 0) ()) ∈ r.2.2 ∧
      .worker 1 (.ack ⟨1, ⟨1, .transportConsumerConsumeEvent "rtp" 0, ()⟩⟩
        (some ⟨"c", some "x", some "audio", some "rtp"⟩)) ∈ r.2.2 ∧
      ∃ q ∈ (machine Unit).step r.2.1 resumeFirst,
        .coordinator (.transportUpdate 2 3 .transportConsumerResumeEvent
          ()) ∈ r.2.2 ++ q.2)) rfl (by decide)
  obtain ⟨hpub, hack, ⟨s', obs⟩, hs, hres⟩ := of_decide_eq_true hp
  exact ⟨past, s, tr, s', obs, hr, hs, hres,
    resume_found hr hs hpub hack hres⟩

end Examples

end Twolk.Media
