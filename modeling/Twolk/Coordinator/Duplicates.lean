/-
  Twolk.Coordinator.Duplicates
  ────────────────────────────
  **NO EDGE IS REQUESTED TWICE.**

  The mesh of a member requests both directions with everyone present.  For
  two members both meshes run with both present when their joins overlap,
  and each requests both edges.  `meshesInTurn` is the condition that keeps
  them apart: a mesh starts only when no other member has meshed since the
  new member was added.

  An edge in the table is evidence: one of its ends has meshed since the
  other was added.  A mesh that starts in turn finds no such evidence about
  its own member, hence no edge it could double.
-/
import Twolk.Coordinator.Mesh
import Mathlib.Data.List.ProdSigma
import Mathlib.Data.List.TakeWhile

namespace Twolk.Coordinator

open Twolk.Lib

variable {κ : Type}

/-! ## §1. Edges and the order of meshes. -/

/-- Transport `t` is registered, owned by `a`, and consumes from the
producer of `b`. -/
def Coord.edge (c : Coord κ) (t : TransportId) (a b : MemberId) : Prop :=
  t ∈ c.transports.keys ∧ ∃ T ∈ c.transportHeap.get? t,
    T.owningMember = a ∧ ∃ q ∈ c.producerOf b,
      T.consumesFromTransportId = some q

instance (c : Coord κ) (t : TransportId) (a b : MemberId) :
    Decidable (c.edge t a b) :=
  inferInstanceAs (Decidable (_ ∧ _))

/-- The registered transports of the members of space `uuid`. -/
def Coord.transportsOf (c : Coord κ) (uuid : Uuid) : List TransportId :=
  c.transports.keys.filter fun t =>
    ((c.transportHeap.get? t).bind fun T => c.spaceOf T.owningMember)
      = some uuid

/-- **No duplicate consumer transports** in space `uuid`: an ordered pair of
members has at most one, so `n` members that all stayed have at most
`n * n` transports. -/
structure NoDuplicates (uuid : Uuid) (c : Coord κ) : Prop where
  pairs : ∀ a ∈ c.membersOf uuid, ∀ b ∈ c.membersOf uuid, a ≠ b →
    ∀ t t', c.edge t a b → c.edge t' a b → t = t'
  count : (∀ m, c.spaceOf m = some uuid → m ∈ c.membersOf uuid) →
    (c.transportsOf uuid).length
      ≤ (c.membersOf uuid).length * (c.membersOf uuid).length

/-- The observation is `MemberService.add` of `m`. -/
def Out.isMemberAdded (m : MemberId) : Out κ → Bool
  | .memberAdded m' => m' == m
  | _ => false

/-- `y` has meshed since `x` was added. -/
def meshedSince (tr : List (Out κ)) (x y : MemberId) : Prop :=
  .consumersAllocated y ∈ tr.dropWhile fun o => !o.isMemberAdded x

instance [DecidableEq κ] (tr : List (Out κ)) (x y : MemberId) :
    Decidable (meshedSince tr x y) :=
  inferInstanceAs (Decidable (_ ∈ _))

/-- The member whose mesh action `a` starts. -/
def Coord.meshing (c : Coord κ) : Action κ → Option MemberId
  | .resume i =>
      match c.tasks[i]? with
      | some (.producerAllocated p) =>
          (c.transportHeap.get? p).map Transport.owningMember
      | _ => none
  | _ => none

/-- A mesh starts only when no other member of the space has meshed since
the new member was added. -/
def meshesInTurn (uuid : Uuid) : Guard (Coord κ) (Action κ) (Out κ)
  | tr, c, a => ∀ x ∈ c.meshing a, x ∈ c.membersOf uuid →
      ∀ y ∈ c.membersOf uuid, ¬ meshedSince tr x y

instance [DecidableEq κ] (uuid : Uuid) (tr : List (Out κ)) (c : Coord κ)
    (a : Action κ) : Decidable (meshesInTurn uuid tr c a) := by
  unfold meshesInTurn
  infer_instance

section Since

variable {tr : List (Out κ)} {x y : MemberId}

/-- Who has been meshed has been reported so. -/
theorem meshedSince.mem (h : meshedSince tr x y) :
    .consumersAllocated y ∈ tr :=
  (List.dropWhile_suffix _).subset h

/-- And remains so. -/
theorem meshedSince.append (h : meshedSince tr x y) (l : List (Out κ)) :
    meshedSince (tr ++ l) x y := by
  unfold meshedSince at h ⊢
  rw [List.dropWhile_append, if_neg]
  · exact List.mem_append_left _ h
  · intro hnil
    rw [List.isEmpty_iff.mp hnil] at h
    cases h

/-- A member that was added before `y` meshes. -/
theorem meshedSince_of_added (h : .memberAdded x ∈ tr) {l : List (Out κ)}
    (hl : .consumersAllocated y ∈ l) : meshedSince (tr ++ l) x y := by
  unfold meshedSince
  rw [List.dropWhile_append, if_neg]
  · exact List.mem_append_right _ hl
  · intro hnil
    rw [List.isEmpty_iff, List.dropWhile_eq_nil_iff] at hnil
    simpa [Out.isMemberAdded] using hnil _ h

end Since

/-! ## §2. The requests of a mesh, one by one. -/

section Requests

/-- What a list of requests adds to the tables and the outbox. -/
theorem requestAll_added (router : RouterId) :
    ∀ (edges : List (MemberId × TransportId)) (c : Coord κ),
    (requestAll router c edges).tasks = c.tasks ∧
    (∀ t ∈ (requestAll router c edges).transports.keys,
      t ∈ c.transports.keys ∨ c.transportIdGen ≤ t) ∧
    (∀ t ∈ (requestAll router c edges).transportRequests.keys,
      t ∈ c.transportRequests.keys ∨ c.transportIdGen ≤ t) ∧
    ∃ l, (requestAll router c edges).out = c.out ++ l ∧
      ∀ m, .consumersAllocated m ∉ l
  | [], c => ⟨rfl, fun _ h => .inl h, fun _ h => .inl h, [],
      (List.append_nil _).symm, by simp⟩
  | e :: edges, c => by
      obtain ⟨htasks, htr, hreq, l, hl, hm⟩ := requestAll_added router edges
        (TransportAllocator.request c router e.1 (some e.2))
      have hadd : ∀ (s : JsSet TransportId) (t : TransportId),
          t ∈ (JsSet.add s c.transportIdGen).keys ∨
            c.transportIdGen + 1 ≤ t →
          t ∈ s.keys ∨ c.transportIdGen ≤ t := by
        rintro s t (h | h)
        · rcases JsSet.mem_keys_add.mp h with rfl | h
          · exact .inr (Nat.le_refl _)
          · exact .inl h
        · exact .inr (Nat.le_of_succ_le h)
      refine ⟨htasks, fun t ht => hadd _ t (htr t ht),
        fun t ht => hadd _ t (hreq t ht),
        .newWebRtcTransportRequest router c.transportIdGen false :: l, ?_, ?_⟩
      · exact hl.trans (List.append_assoc c.out [_] l)
      · intro m h
        rcases List.mem_cons.mp h with h | h
        · cases h
        · exact hm m h

variable {c : Coord κ} {uuid : Uuid}

/-- The producers of two members differ. -/
theorem TransportWF.producerOf_inj (hI : TransportWF c) {a b : MemberId}
    {p : TransportId} (ha : c.producerOf a = some p)
    (hb : c.producerOf b = some p) : a = b := by
  have howner : ∀ m, c.producerOf m = some p → ∀ T,
      c.transportHeap.get? p = some T → T.owningMember = m := by
    intro m hm T hT
    obtain ⟨M, hM, -⟩ := Option.bind_eq_some_iff.mp hm
    obtain ⟨p', T', hp', hT', ho, -⟩ := hI.producer m M.owningSpace
      (by rw [Coord.spaceOf, hM]; rfl)
    cases hm.symm.trans hp'
    cases hT.symm.trans hT'
    exact ho
  obtain ⟨M, hM, -⟩ := Option.bind_eq_some_iff.mp ha
  obtain ⟨p', T, hp', hT, ho, -⟩ := hI.producer a M.owningSpace
    (by rw [Coord.spaceOf, hM]; rfl)
  cases ha.symm.trans hp'
  exact ho.symm.trans (howner b hb T hT)

/-- An edge of the pair of `x` and `other`, in one direction or the
other. -/
theorem mem_pairEdges {x other : MemberId} {p : TransportId}
    {e : MemberId × TransportId} (h : e ∈ pairEdges c x p other) :
    other ≠ x ∧ (e = (other, p) ∨
      ∃ q, c.producerOf other = some q ∧ e = (x, q)) := by
  unfold pairEdges at h
  split at h
  · cases h
  · rename_i hne
    refine ⟨hne, (List.mem_append.mp h).imp (fun h => ?_) fun h => ?_⟩
    · split at h
      · exact List.mem_singleton.mp h
      · cases h
    · split at h
      · cases h
      · rename_i q hq
        split at h
        · exact ⟨q, hq, List.mem_singleton.mp h⟩
        · cases h

/-- A mesh asks for no pair twice. -/
theorem pairEdges_nodup (x other : MemberId) (p : TransportId) :
    (pairEdges c x p other).Nodup := by
  unfold pairEdges
  split
  · exact List.nodup_nil
  · rename_i hne
    refine List.nodup_append.mpr ⟨?_, ?_, ?_⟩
    · split <;> simp
    · split
      · exact List.nodup_nil
      · split <;> simp
    · rintro e he e' he' rfl
      split at he
      · cases List.mem_singleton.mp he
        split at he'
        · cases he'
        · split at he'
          · exact hne (Prod.mk.inj (List.mem_singleton.mp he')).1
          · cases he'
      · cases he

/-- A mesh requests every edge once. -/
theorem meshEdges_nodup (hI : TransportWF c) (x : MemberId)
    (p : TransportId) : (meshEdges c uuid x p).Nodup := by
  refine List.nodup_flatMap.mpr ⟨fun o _ => pairEdges_nodup x o p, ?_⟩
  refine (membersOf_nodup c uuid).imp fun {o o'} hne => ?_
  rintro e he he'
  obtain ⟨hx, h⟩ := mem_pairEdges he
  obtain ⟨hx', h'⟩ := mem_pairEdges he'
  rcases h with rfl | ⟨q, hq, rfl⟩
  · rcases h' with h' | ⟨q', -, h'⟩
    · exact hne (Prod.mk.inj h').1
    · exact hx (Prod.mk.inj h').1
  · rcases h' with h' | ⟨q', hq', h'⟩
    · exact hx' (Prod.mk.inj h').1.symm
    · rw [← (Prod.mk.inj h').2] at hq'
      exact hne (hI.producerOf_inj hq hq')

end Requests

/-! ## §3. The invariant. -/

/-- The continuation starts the mesh of the owner of `p`. -/
def Task.isProduced (p : TransportId) : Task κ → Bool
  | .producerAllocated q => q == p
  | _ => false

/-- How many requests and continuations for `p` are under way. -/
def Coord.producing (c : Coord κ) (p : TransportId) : Nat :=
  c.tasks.countP (Task.isProduced p) +
    if p ∈ c.transportRequests.keys then 1 else 0

/-- Every edge in the table is there because one of its ends has meshed
since the other was added. -/
structure DupInv (uuid : Uuid) (tr : List (Out κ)) (c : Coord κ) :
    Prop where
  added : ∀ m ∈ c.membersOf uuid, .memberAdded m ∈ tr ++ c.out
  known : ∀ m, .consumersAllocated m ∈ tr ++ c.out → c.spaceOf m ≠ none
  once : ∀ p, c.producing p ≤ 1
  waiting : ∀ m p, c.producerOf m = some p → 0 < c.producing p →
    .consumersAllocated m ∉ tr ++ c.out
  edges : ∀ a ∈ c.membersOf uuid, ∀ b ∈ c.membersOf uuid, ∀ t,
    c.edge t a b →
      meshedSince (tr ++ c.out) a b ∨ meshedSince (tr ++ c.out) b a
  unique : ∀ a ∈ c.membersOf uuid, ∀ b ∈ c.membersOf uuid, ∀ t t',
    c.edge t a b → c.edge t' a b → t = t'

/-- From `c` to `c'` nothing is added that the invariant is about. -/
structure DupFrame (uuid : Uuid) (c c' : Coord κ) : Prop where
  spaceOf : ∀ m, c'.spaceOf m = c.spaceOf m
  producerOf : ∀ m, c'.producerOf m = c.producerOf m
  membersOf : ∀ m ∈ c'.membersOf uuid, m ∈ c.membersOf uuid
  transports : ∀ t ∈ c'.transports.keys, t ∈ c.transports.keys
  heap : ∀ t T', c'.transportHeap.get? t = some T' → ∃ T,
    c.transportHeap.get? t = some T ∧ T'.owningMember = T.owningMember ∧
      T'.consumesFromTransportId = T.consumesFromTransportId
  producing : ∀ p, c'.producing p ≤ c.producing p
  out : ∃ l, c'.out = c.out ++ l ∧ ∀ m, .consumersAllocated m ∉ l

section Invariant

variable {uuid : Uuid} {tr : List (Out κ)} {c c' : Coord κ}

theorem DupFrame.refl (uuid : Uuid) (c : Coord κ) : DupFrame uuid c c where
  spaceOf _ := rfl
  producerOf _ := rfl
  membersOf _ h := h
  transports _ h := h
  heap _ T' h := ⟨T', h, rfl, rfl⟩
  producing _ := Nat.le_refl _
  out := ⟨[], (List.append_nil _).symm, by simp⟩

/-- No edge is added. -/
theorem DupFrame.edge (h : DupFrame uuid c c') {t : TransportId}
    {a b : MemberId} (he : c'.edge t a b) : c.edge t a b := by
  obtain ⟨ht, T', hT', ho, q, hq, hs⟩ := he
  obtain ⟨T, hT, ho', hs'⟩ := h.heap t T' hT'
  exact ⟨h.transports t ht, T, hT, ho'.symm.trans ho, q,
    (h.producerOf b).symm.trans hq, hs'.symm.trans hs⟩

/-- A stretch without meshes keeps the invariant. -/
theorem DupFrame.inv (h : DupFrame uuid c c') (hI : DupInv uuid tr c) :
    DupInv uuid tr c' := by
  obtain ⟨l, hl, hm⟩ := h.out
  have hout : tr ++ c'.out = tr ++ c.out ++ l := by
    rw [hl, List.append_assoc]
  -- no mesh is written by the step
  have hmeshed : ∀ m, .consumersAllocated m ∈ tr ++ c'.out →
      .consumersAllocated m ∈ tr ++ c.out := by
    intro m hmem
    rw [hout] at hmem
    exact (List.mem_append.mp hmem).resolve_right (hm m)
  -- clause by clause: nothing is new, so all of it was so before
  constructor
  case added =>
    intro m hmem
    rw [hout]
    exact List.mem_append_left _ (hI.added m (h.membersOf m hmem))
  case known =>
    intro m hmem
    rw [h.spaceOf]
    exact hI.known m (hmeshed m hmem)
  case once => exact fun p => (h.producing p).trans (hI.once p)
  case waiting =>
    intro m p hp hpos hmem
    rw [h.producerOf] at hp
    exact hI.waiting m p hp (Nat.lt_of_lt_of_le hpos (h.producing p))
      (hmeshed m hmem)
  case edges =>
    intro a ha b hb t he
    rw [hout]
    exact (hI.edges a (h.membersOf a ha) b (h.membersOf b hb) t
      (h.edge he)).imp (·.append l) (·.append l)
  case unique =>
    exact fun a ha b hb t t' he he' => hI.unique a (h.membersOf a ha) b
      (h.membersOf b hb) t t' (h.edge he) (h.edge he')

/-- A stretch that leaves records and requests alone. -/
theorem DupFrame.of_eq (memberHeap : c'.memberHeap = c.memberHeap)
    (transportHeap : c'.transportHeap = c.transportHeap)
    (requests : c'.transportRequests = c.transportRequests)
    (membersOf : ∀ m ∈ c'.membersOf uuid, m ∈ c.membersOf uuid)
    (transports : ∀ t ∈ c'.transports.keys, t ∈ c.transports.keys)
    (tasks : ∀ p, c'.tasks.countP (Task.isProduced p)
      ≤ c.tasks.countP (Task.isProduced p))
    (out : ∃ l, c'.out = c.out ++ l ∧ ∀ m, .consumersAllocated m ∉ l) :
    DupFrame uuid c c' where
  spaceOf m := by rw [Coord.spaceOf, Coord.spaceOf, memberHeap]
  producerOf m := by rw [Coord.producerOf, Coord.producerOf, memberHeap]
  membersOf := membersOf
  transports := transports
  heap t T' hT' := ⟨T', transportHeap ▸ hT', rfl, rfl⟩
  producing p := by
    unfold Coord.producing
    rw [requests]
    exact Nat.add_le_add_right (tasks p) _
  out := out

/-- A continuation that starts no mesh is taken or left behind. -/
theorem produced_defer {t : Task κ} (ht : ∀ p, t ≠ .producerAllocated p)
    (p : TransportId) : (c.tasks ++ [t]).countP (Task.isProduced p)
      ≤ c.tasks.countP (Task.isProduced p) := by
  rw [List.countP_append, List.countP_singleton, if_neg]
  · exact Nat.le_refl _
  · cases t with
    | producerAllocated q => exact absurd rfl (ht q)
    | allocated | routerRemoved | transitioned | caught =>
        simp [Task.isProduced]

/-- Taking up a continuation leaves fewer of them. -/
theorem produced_erase (i : Nat) (p : TransportId) :
    (c.tasks.eraseIdx i).countP (Task.isProduced p)
      ≤ c.tasks.countP (Task.isProduced p) :=
  (List.eraseIdx_sublist _ _).countP_le

theorem without_dupFrame (uuid : Uuid) (c : Coord κ) (i : Nat) :
    DupFrame uuid c (c.without i) :=
  .of_eq rfl rfl rfl (fun _ h => h) (fun _ h => h) (produced_erase i)
    ⟨[], (List.append_nil _).symm, by simp⟩

/-- What is under way for a transport is about a known transport. -/
theorem TransportWF.of_producing (hI : TransportWF c) {p : TransportId}
    (h : 0 < c.producing p) : ∃ T, c.transportHeap.get? p = some T := by
  by_cases hr : p ∈ c.transportRequests.keys
  · obtain ⟨T, hT, -⟩ := hI.requested p hr
    exact ⟨T, hT⟩
  · rw [Coord.producing, if_neg hr, Nat.add_zero, List.countP_pos_iff] at h
    obtain ⟨t, ht, hp⟩ := h
    cases t with
    | producerAllocated q =>
      obtain rfl : q = p := by simpa [Task.isProduced] using hp
      obtain ⟨T, hT, -⟩ := hI.produced q ht
      exact ⟨T, hT⟩
    | allocated | routerRemoved | transitioned | caught => cases hp

/-- A new member has no edges. -/
theorem DupInv.join (hI : DupInv uuid tr c) (hwf : CoordWF c)
    {uuid' : Uuid} {data : MemberData} {state : MemberState} {r : RouterId}
    (hspec : JoinSpec c c' uuid' data state r)
    (hmem : ∀ m, m ∈ c'.membersOf uuid ↔
      m ∈ c.membersOf uuid ∨ m = c.memberIdGen ∧ uuid = uuid')
    (htasks : c'.tasks = c.tasks)
    (hout : ∃ l, c'.out = c.out ++ .memberAdded c.memberIdGen :: l ∧
      ∀ m, .consumersAllocated m ∉ l) : DupInv uuid tr c' := by
  obtain ⟨l, hl, hm⟩ := hout
  have hout : tr ++ c'.out
      = tr ++ c.out ++ .memberAdded c.memberIdGen :: l := by
    rw [hl, List.append_assoc]
  have hmeshed : ∀ m, .consumersAllocated m ∈ tr ++ c'.out →
      .consumersAllocated m ∈ tr ++ c.out := by
    intro m hmem
    rw [hout] at hmem
    refine (List.mem_append.mp hmem).resolve_right fun h => ?_
    rcases List.mem_cons.mp h with h | h
    · cases h
    · exact hm m h
  -- the new producer is requested once, and everything else is as it was
  have hnone : ¬ 0 < c.producing c.transportIdGen := by
    intro h
    obtain ⟨T, hT⟩ := hwf.transport.of_producing h
    exact Nat.lt_irrefl _ (hwf.transport.fresh _ T hT)
  have hproducing : ∀ p, c'.producing p
      = if p = c.transportIdGen then 1 else c.producing p := by
    intro p
    rw [Coord.producing, htasks]
    by_cases h : p = c.transportIdGen
    · subst h
      rw [if_pos ((hspec.requests _).mpr (.inl rfl)), if_pos rfl]
      rw [Coord.producing, Nat.pos_iff_ne_zero, not_not,
        Nat.add_eq_zero_iff] at hnone
      rw [hnone.1]
    · rw [if_neg h, Coord.producing]
      refine congrArg _ (if_congr ?_ rfl rfl)
      rw [hspec.requests]
      simp [h]
  -- an edge after the join is one before it
  have hedge : ∀ a b t, c'.edge t a b →
      c.edge t a b ∧ a ≠ c.memberIdGen ∧ b ≠ c.memberIdGen := by
    rintro a b t ⟨ht, T, hT, ho, q, hq, hs⟩
    have hT : c'.transportHeap.get? t = some T := hT
    have hq : c'.producerOf b = some q := hq
    rw [hspec.heap] at hT
    split at hT
    · cases hT
      cases hs
    · rename_i hne
      obtain ⟨u, hu, -⟩ := hwf.transport.owned t T hT
      obtain ⟨S, hS, -⟩ := hwf.transport.source t T q hT hs
      rw [hspec.producerOf] at hq
      split at hq
      · cases hq
        exact absurd (hwf.transport.fresh _ S hS) (Nat.lt_irrefl _)
      · rename_i hb
        exact ⟨⟨((hspec.transports t).mp ht).resolve_left hne, T, hT, ho, q,
          hq, hs⟩, ho ▸ (hspec.spaceOf_old hwf.member hu).1, hb⟩
  have hold : ∀ a ∈ c'.membersOf uuid, a ≠ c.memberIdGen →
      a ∈ c.membersOf uuid := fun a ha hne =>
    ((hmem a).mp ha).resolve_right fun h => hne h.1
  constructor
  case added =>
    intro m h
    rw [hout]
    rcases (hmem m).mp h with h | ⟨rfl, -⟩
    · exact List.mem_append_left _ (hI.added m h)
    · exact List.mem_append_right _ List.mem_cons_self
  case known =>
    intro m h
    obtain ⟨u, hu⟩ := Option.ne_none_iff_exists'.mp (hI.known m (hmeshed m h))
    rw [(hspec.spaceOf_old hwf.member hu).2]
    simp
  case once =>
    intro p
    rw [hproducing]
    split
    · exact Nat.le_refl _
    · exact hI.once p
  case waiting =>
    intro m p hp hpos h
    have h := hmeshed m h
    rw [hspec.producerOf] at hp
    split at hp
    · rename_i heq
      exact hI.known m h (heq ▸ hwf.member.spaceOf_new)
    · rw [hproducing] at hpos
      split at hpos
      · rename_i heq
        subst heq
        obtain ⟨M, hM, -⟩ := Option.bind_eq_some_iff.mp hp
        obtain ⟨q, T, hq, hT, -⟩ := hwf.transport.producer m M.owningSpace
          (by rw [Coord.spaceOf, hM]; rfl)
        cases hp.symm.trans hq
        exact Nat.lt_irrefl _ (hwf.transport.fresh _ T hT)
      · exact hI.waiting m p hp hpos h
  case edges =>
    intro a ha b hb t he
    obtain ⟨he, hna, hnb⟩ := hedge a b t he
    rw [hout]
    exact (hI.edges a (hold a ha hna) b (hold b hb hnb) t he).imp
      (·.append _) (·.append _)
  case unique =>
    intro a ha b hb t t' he he'
    obtain ⟨he, hna, hnb⟩ := hedge a b t he
    exact hI.unique a (hold a ha hna) b (hold b hb hnb) t t' he
      (hedge a b t' he').1

/-- An edge that a mesh starts joins the new member and another one. -/
theorem mem_meshEdges (hm : MemberWF c) {x : MemberId} {p : TransportId}
    {uuid' : Uuid} {e : MemberId × TransportId}
    (h : e ∈ meshEdges c uuid' x p) : ∃ o, o ≠ x ∧
      c.spaceOf o = some uuid' ∧ o ∈ c.membersOf uuid' ∧
      (e = (o, p) ∨ ∃ q, c.producerOf o = some q ∧ e = (x, q)) := by
  obtain ⟨o, ho, he⟩ := List.mem_flatMap.mp h
  obtain ⟨hne, he⟩ := mem_pairEdges he
  exact ⟨o, hne, ((hm.mem uuid' o).mp ho).2, ho, he⟩

/-- What the mesh of member `x`, run as task `i`, changes, table by table:
its edges are requested on router `r` under the next ids. -/
structure MeshSpec (c c' : Coord κ) (i : Nat) (x : MemberId) (r : RouterId)
    (edges : List (MemberId × TransportId)) : Prop where
  memberHeap : c'.memberHeap = c.memberHeap
  membersOf : ∀ uuid, c'.membersOf uuid = c.membersOf uuid
  tasks : c'.tasks = c.tasks.eraseIdx i
  heap : ∀ t, c'.transportHeap.get? t
    = if c.transportIdGen ≤ t then
        (edges[t - c.transportIdGen]?).map fun e =>
          requestedTransport r e.1 (some e.2)
      else c.transportHeap.get? t
  transports : ∀ t ∈ c'.transports.keys,
    t ∈ c.transports.keys ∨ c.transportIdGen ≤ t
  requests : ∀ t ∈ c'.transportRequests.keys,
    t ∈ c.transportRequests.keys ∨ c.transportIdGen ≤ t
  out : ∃ l, c'.out = c.out ++ .consumersAllocated x :: l ∧
    ∀ m, .consumersAllocated m ∉ l

/-- What the continuation of a producer promise asks for. -/
theorem meshSpec (hwf : CoordWF c) {i : Nat} {p : TransportId}
    (ht : c.tasks[i]? = some (.producerAllocated p)) :
    ∃ T uuid', c.transportHeap.get? p = some T ∧
      T.consumesFromTransportId = none ∧
      c.spaceOf T.owningMember = some uuid' ∧
      MeshSpec c (MemberService.allocateConsumers (c.without i) p) i
        T.owningMember T.owningRouter
        (meshEdges c uuid' T.owningMember p) := by
  obtain ⟨T, uuid', hT, hn, hu, heq⟩ :=
    mesh_eq hwf.transport hwf.member ht
  refine ⟨T, uuid', hT, hn, hu, ?_⟩
  rw [heq]
  -- `d` is where the requests start from
  let d := (c.without i).emit (.consumersAllocated T.owningMember)
  let edges := meshEdges c uuid' T.owningMember p
  obtain ⟨htasks, htr, hreq, l, hl, hlm⟩ :=
    requestAll_added T.owningRouter edges d
  obtain ⟨hmh, hsp, -, -⟩ := requestAll_tables T.owningRouter edges d
  refine ⟨hmh, fun uuid => ?_, htasks, ?_, htr, hreq, l, ?_, hlm⟩
  · show Coord.membersOf (requestAll T.owningRouter d edges) uuid = _
    rw [Coord.membersOf, hsp]
    rfl
  · exact requestAll_heap T.owningRouter edges d fun t hle =>
      hwf.transport.heap_next (c := c) hle
  · refine hl.trans ?_
    show c.out ++ [_] ++ l = _
    rw [List.append_assoc]
    rfl

namespace MeshSpec

variable {i : Nat} {x : MemberId} {r : RouterId} {p : TransportId}
  {edges : List (MemberId × TransportId)}

theorem spaceOf (h : MeshSpec c c' i x r edges) (m : MemberId) :
    c'.spaceOf m = c.spaceOf m := by
  rw [Coord.spaceOf, Coord.spaceOf, h.memberHeap]

theorem producerOf (h : MeshSpec c c' i x r edges) (m : MemberId) :
    c'.producerOf m = c.producerOf m := by
  rw [Coord.producerOf, Coord.producerOf, h.memberHeap]

/-- An edge after the mesh is one before it or one that the mesh starts. -/
theorem edge (h : MeshSpec c c' i x r edges) {a b : MemberId}
    {t : TransportId} (he : c'.edge t a b) : c.edge t a b ∨
      c.transportIdGen ≤ t ∧ ∃ q, edges[t - c.transportIdGen]? = some (a, q) ∧
        c.producerOf b = some q := by
  obtain ⟨htt, T', hT', ho, q, hq, hs⟩ := he
  rw [h.heap, Option.mem_def] at hT'
  rw [h.producerOf, Option.mem_def] at hq
  split at hT'
  · rename_i hle
    obtain ⟨e, he, rfl⟩ := Option.map_eq_some_iff.mp hT'
    cases ho
    cases hs
    exact .inr ⟨hle, e.2, he, hq⟩
  · rename_i hle
    exact .inl ⟨(h.transports t htt).resolve_right hle, T', hT', ho, q, hq,
      hs⟩

/-- The producers there are get no second request. -/
theorem producing (h : MeshSpec c c' i x r edges) {q : TransportId}
    (hq : q < c.transportIdGen) :
    c'.producing q ≤ (c.without i).producing q := by
  rw [Coord.producing, Coord.producing, h.tasks]
  refine Nat.add_le_add_left ?_ _
  split
  · rename_i hin
    rw [if_pos]
    exact (h.requests q hin).resolve_right (Nat.not_le.mpr hq)
  · exact Nat.zero_le _

/-- No producer promise is waited for twice. -/
theorem once (h : MeshSpec c c' i x r edges) (hwf : CoordWF c)
    (hI : DupInv uuid tr c) (q : TransportId) : c'.producing q ≤ 1 := by
  by_cases hq : q < c.transportIdGen
  · calc c'.producing q ≤ (c.without i).producing q := h.producing hq
      _ ≤ c.producing q := (without_dupFrame uuid c i).producing q
      _ ≤ 1 := hI.once q
  · -- no continuation waits for a transport that is not there yet
    have hcount : c'.tasks.countP (Task.isProduced q) = 0 := by
      rw [h.tasks]
      refine Nat.eq_zero_of_le_zero ((produced_erase i q).trans ?_)
      by_contra hne
      obtain ⟨S, hS⟩ := hwf.transport.of_producing
        (Nat.lt_of_lt_of_le (Nat.not_le.mp hne) (Nat.le_add_right _ _))
      exact hq (hwf.transport.fresh q S hS)
    rw [Coord.producing, hcount, Nat.zero_add]
    split <;> decide

end MeshSpec

/-- A producer transport is under way once, so not any more when its mesh
runs. -/
theorem DupInv.idle (hI : DupInv uuid tr c) {i : Nat} {p : TransportId}
    (ht : c.tasks[i]? = some (.producerAllocated p)) :
    0 < c.producing p ∧ (c.without i).producing p = 0 := by
  have hcount : c.producing p = (c.without i).producing p + 1 := by
    rw [Coord.producing, ← (perm_cons_eraseIdx ht).countP_eq,
      List.countP_cons_of_pos (by simp [Task.isProduced]), Nat.add_right_comm]
    rfl
  have honce := hI.once p
  rw [hcount] at honce ⊢
  exact ⟨Nat.succ_pos _,
    Nat.eq_zero_of_le_zero (Nat.le_of_succ_le_succ honce)⟩

/-- The pairs that the mesh of `x` joins. -/
def Joins (x a b : MemberId) : Prop :=
  a ≠ x ∧ b = x ∨ a = x ∧ b ≠ x

/-- The edges of a mesh join the new member and another one. -/
theorem joins_of_mem_meshEdges (hwf : CoordWF c) {x a b : MemberId}
    {p q : TransportId} {uuid' : Uuid} (hx : c.producerOf x = some p)
    (h : (a, q) ∈ meshEdges c uuid' x p) (hb : c.producerOf b = some q) :
    Joins x a b := by
  obtain ⟨o, hne, -, -, he | ⟨q', hq', he⟩⟩ := mem_meshEdges hwf.member h
  · cases he
    exact .inl ⟨hne, hwf.transport.producerOf_inj hb hx⟩
  · cases he
    exact .inr ⟨rfl, hwf.transport.producerOf_inj hb hq' ▸ hne⟩

/-- A member that has not meshed, and with which nobody has since it was
added, has no edge. -/
theorem DupInv.not_edge (hI : DupInv uuid tr c) {x : MemberId}
    (hx : .consumersAllocated x ∉ tr ++ c.out)
    (hsince : x ∈ c.membersOf uuid → ∀ y ∈ c.membersOf uuid,
      ¬ meshedSince (tr ++ c.out) x y) {a b : MemberId}
    (ha : a ∈ c.membersOf uuid) (hb : b ∈ c.membersOf uuid)
    {t : TransportId} (hj : Joins x a b) : ¬ c.edge t a b := by
  intro he
  have hmeshed := hI.edges a ha b hb t he
  have hother : ∀ o, ¬ meshedSince (tr ++ c.out) o x := fun o h => hx h.mem
  rcases hj with ⟨-, rfl⟩ | ⟨rfl, -⟩
  · exact hmeshed.elim (hother a) (hsince hb a ha)
  · exact hmeshed.elim (hsince ha b hb) (hother b)

/-- **A mesh in turn doubles no edge.** -/
theorem DupInv.mesh (hI : DupInv uuid tr c) (hwf : CoordWF c)
    (hout : c.out = []) {i : Nat} {p : TransportId}
    (hg : meshesInTurn uuid tr c (.resume i))
    (ht : c.tasks[i]? = some (.producerAllocated p)) :
    DupInv uuid tr (MemberService.allocateConsumers (c.without i) p) := by
  obtain ⟨T, uuid', hT, hn, hu, hspec⟩ := meshSpec hwf ht
  generalize MemberService.allocateConsumers (c.without i) p = c' at hspec ⊢
  -- the ack of the producer is this continuation, and none is left
  have hpx := hwf.transport.isProducer p T hT hn
  obtain ⟨hpos, hzero⟩ := hI.idle ht
  have hwaiting := hI.waiting _ p hpx hpos
  -- before this mesh there is no edge from or to the new member
  have hnone : ∀ a ∈ c.membersOf uuid, ∀ b ∈ c.membersOf uuid, ∀ t,
      Joins T.owningMember a b → ¬ c.edge t a b := by
    intro a ha b hb t
    refine hI.not_edge hwaiting (fun hx y hy => ?_) ha hb
    rw [hout, List.append_nil]
    exact hg T.owningMember (by simp [Coord.meshing, ht, hT]) hx y hy
  -- every edge that is added has the new member at one end
  have hnew : ∀ {a b q k}, (meshEdges c uuid' T.owningMember p)[k]?
      = some (a, q) → c.producerOf b = some q → Joins T.owningMember a b :=
    fun he hq => joins_of_mem_meshEdges hwf hpx (List.mem_of_getElem? he) hq
  obtain ⟨l, hl, hlm⟩ := hspec.out
  have hout' : tr ++ c'.out
      = tr ++ c.out ++ .consumersAllocated T.owningMember :: l := by
    rw [hl, List.append_assoc]
  constructor
  case added =>
    intro m hm
    rw [hout']
    exact List.mem_append_left _ (hI.added m (hspec.membersOf uuid ▸ hm))
  case known =>
    intro m hm
    rw [hspec.spaceOf]
    rw [hout'] at hm
    rcases List.mem_append.mp hm with hm | hm
    · exact hI.known m hm
    · rcases List.mem_cons.mp hm with hm | hm
      · cases hm
        rw [hu]
        simp
      · exact absurd hm (hlm m)
  case once => exact hspec.once hwf hI
  case waiting =>
    intro m q hq hpos hm
    rw [hspec.producerOf] at hq
    obtain ⟨M, hM, -⟩ := Option.bind_eq_some_iff.mp hq
    obtain ⟨q', S, hq', hS, -⟩ := hwf.transport.producer m M.owningSpace
      (by rw [Coord.spaceOf, hM]; rfl)
    cases hq.symm.trans hq'
    have hpos := Nat.lt_of_lt_of_le hpos
      (hspec.producing (hwf.transport.fresh q S hS))
    rw [hout'] at hm
    rcases List.mem_append.mp hm with hm | hm
    · exact hI.waiting m q hq (Nat.lt_of_lt_of_le hpos
        ((without_dupFrame uuid c i).producing q)) hm
    · rcases List.mem_cons.mp hm with hm | hm
      · -- the member whose mesh runs waits for nothing any more
        cases hm
        cases hq.symm.trans hpx
        rw [hzero] at hpos
        exact Nat.lt_irrefl 0 hpos
      · exact hlm m hm
  case edges =>
    rw [hspec.membersOf]
    intro a ha b hb t he
    rw [hout']
    rcases hspec.edge he with he | ⟨-, q, he, hq⟩
    · exact (hI.edges a ha b hb t he).imp (·.append _) (·.append _)
    · rcases hnew he hq with ⟨-, rfl⟩ | ⟨rfl, -⟩
      · exact .inl (meshedSince_of_added (hI.added a ha) List.mem_cons_self)
      · exact .inr (meshedSince_of_added (hI.added b hb) List.mem_cons_self)
  case unique =>
    rw [hspec.membersOf]
    intro a ha b hb t t' he he'
    -- one edge is new, and the other one cannot have been there
    rcases hspec.edge he with he | ⟨hle, q, he, hq⟩
    · rcases hspec.edge he' with he' | ⟨-, q', he', hq'⟩
      · exact hI.unique a ha b hb t t' he he'
      · exact absurd he (hnone a ha b hb t (hnew he' hq'))
    · rcases hspec.edge he' with he' | ⟨hle', q', he', hq'⟩
      · exact absurd he' (hnone a ha b hb t' (hnew he hq))
      · -- both are new: the mesh lists every edge once
        cases hq.symm.trans hq'
        have hnodup : (meshEdges c uuid' T.owningMember p).Nodup :=
          meshEdges_nodup hwf.transport _ _
        have hlt := (List.getElem?_eq_some_iff.mp he).1
        have hidx := (List.getElem?_inj hlt hnodup).mp (he.trans he'.symm)
        rw [← Nat.sub_add_cancel hle, hidx, Nat.sub_add_cancel hle']

end Invariant

/-! ## §4. Every run. -/

section Runs

variable {uuid : Uuid} {tr : List (Out κ)} {c c' : Coord κ}

/-- The count of §1 follows from the pairs: a transport is named by its
owner and the member it consumes from, or its owner twice. -/
theorem NoDuplicates.of_pairs (hwf : CoordWF c)
    (hpairs : ∀ a ∈ c.membersOf uuid, ∀ b ∈ c.membersOf uuid, ∀ t t',
      c.edge t a b → c.edge t' a b → t = t') : NoDuplicates uuid c where
  pairs a ha b hb _ := hpairs a ha b hb
  count hstay := by
    -- the pair that names a transport
    have hname : ∀ t ∈ c.transportsOf uuid, ∃ e : MemberId × MemberId,
        e ∈ (c.membersOf uuid).product (c.membersOf uuid) ∧
          ((e.1 = e.2 ∧ c.producerOf e.1 = some t) ∨
            (e.1 ≠ e.2 ∧ c.edge t e.1 e.2)) := by
      intro t ht
      obtain ⟨hin, ht⟩ := List.mem_filter.mp ht
      obtain ⟨T, hT, hu⟩ := Option.bind_eq_some_iff.mp (of_decide_eq_true ht)
      have ha := hstay _ hu
      cases hs : T.consumesFromTransportId with
      | none =>
        exact ⟨(T.owningMember, T.owningMember),
          List.mem_product.mpr ⟨ha, ha⟩,
          .inl ⟨rfl, hwf.transport.isProducer t T hT hs⟩⟩
      | some q =>
        obtain ⟨S, hS, hn, hne, hsp⟩ := hwf.transport.source t T q hT hs
        exact ⟨(T.owningMember, S.owningMember),
          List.mem_product.mpr ⟨ha, hstay _ (hsp.trans hu)⟩,
          .inr ⟨Ne.symm hne, hin, T, hT, rfl, q,
            hwf.transport.isProducer q S hS hn, hs⟩⟩
    choose! name hmem hspec using hname
    have hinj : ∀ t ∈ c.transportsOf uuid, ∀ t' ∈ c.transportsOf uuid,
        name t = name t' → t = t' := by
      intro t ht t' ht' heq
      obtain ⟨ha, hb⟩ := List.mem_product.mp (hmem t ht)
      have h := hspec t ht
      have h' := hspec t' ht'
      rw [← heq] at h'
      rcases h with ⟨he, hp⟩ | ⟨hne, hp⟩
      · rcases h' with ⟨-, hp'⟩ | ⟨hne, -⟩
        · exact Option.some.inj (hp.symm.trans hp')
        · exact absurd he hne
      · rcases h' with ⟨he, -⟩ | ⟨-, hp'⟩
        · exact absurd he hne
        · exact hpairs _ ha _ hb t t' hp hp'
    have hnodup : ((c.transportsOf uuid).map name).Nodup :=
      ((JsMap.keys_nodup _).filter _).map_on hinj
    have hsub : (c.transportsOf uuid).map name
        ⊆ (c.membersOf uuid).product (c.membersOf uuid) := by
      intro e he
      obtain ⟨t, ht, rfl⟩ := List.mem_map.mp he
      exact hmem t ht
    calc (c.transportsOf uuid).length
        = ((c.transportsOf uuid).map name).length := (List.length_map _).symm
      _ ≤ ((c.membersOf uuid).product (c.membersOf uuid)).length :=
          (List.subperm_of_subset hnodup hsub).length_le
      _ = _ := List.length_product _ _

/-- An ack moves what is under way from the request to the continuation. -/
theorem transportAck_dupFrame (hwf : CoordWF c) {id : TransportId}
    (options : Json) (hid : id ∈ c.transportRequests.keys) :
    DupFrame uuid c (TransportAllocator.onTransportAck c id options) := by
  obtain ⟨T, hT, -⟩ := hwf.transport.requested id hid
  have hne := hwf.transport.source_ne hT
  have hspec := onTransportAck_spec options hT hne
  have hframe :=
    (TransportAllocator.onTransportAck_frame c id options).members_eq
  refine ⟨hframe.spaceOf, hspec.producerOf, fun m hm => ?_, fun t ht => ?_,
    fun t T' hT' => ?_, fun p => ?_, ?_⟩
  · rwa [hframe.membersOf] at hm
  · rwa [hspec.transports] at ht
  -- the ack changes the options of one transport only
  · rw [hspec.heap] at hT'
    split at hT'
    · rename_i h
      cases hT'
      exact ⟨T, h ▸ hT, rfl, rfl⟩
    · exact ⟨T', hT', rfl, rfl⟩
  -- what was requested of the producer becomes the continuation of its ack
  · rw [Coord.producing, Coord.producing, hspec.tasks, List.countP_append]
    by_cases hp : p = id
    · subst hp
      rw [if_pos hid, if_neg fun h => ((hspec.requests p).mp h).1 rfl,
        Nat.add_zero]
      refine Nat.add_le_add_left ?_ _
      split
      · exact List.countP_le_length
      · exact Nat.zero_le _
    -- no other producer gains a continuation
    · have htask : List.countP (Task.isProduced p)
          (if T.consumesFromTransportId = none then
            [.producerAllocated id] else [] : List (Task κ)) = 0 := by
        split
        · simp [Task.isProduced, Ne.symm hp]
        · rfl
      rw [htask, Nat.add_zero]
      refine Nat.le_of_eq (congrArg _ (if_congr ?_ rfl rfl))
      rw [hspec.requests]
      simp [hp]
  -- the ack writes no `consumersAllocated`
  · refine ⟨_, by rw [onTransportAck_eq options hT hne], fun m hm => ?_⟩
    rcases List.mem_cons.mp hm with hm | hm
    · cases hm
    · split at hm
      · cases hm
      · unfold Coord.paramsEvents at hm
        split at hm
        · cases hm
        · split at hm
          · cases List.mem_singleton.mp hm
          · cases hm

/-- Answers start no mesh. -/
theorem answers_no_mesh {l : List (Out κ)}
    (hl : ∀ o ∈ l, o.answers = true) (m : MemberId) :
    .consumersAllocated m ∉ l := by
  intro h
  cases hl _ h

variable [Callback κ]

/-- The media layer keeps the invariant. -/
theorem dup_media {base c c' : Coord κ} {a : Action κ}
    (hg : meshesInTurn uuid tr base a) (hout : base.out = [])
    (hwfb : CoordWF base) (hb : DupInv uuid tr base)
    (he : MediaEffect base a c c') (hI : DupInv uuid tr c) :
    DupInv uuid tr c' := by
  have frame : ∀ {c c' : Coord κ}, DupInv uuid tr c →
      DupFrame uuid c c' → DupInv uuid tr c' := fun hI h => h.inv hI
  cases he with
  -- by the kind of effect: only a mesh adds transports between members
  | emit _ ho =>
      refine frame hI (.of_eq rfl rfl rfl (fun _ h => h) (fun _ h => h)
        (fun _ => Nat.le_refl _) ⟨[_], rfl, answers_no_mesh ?_⟩)
      simpa using Out.answers_of_replies ho
  | answer _ ht =>
      exact frame hI (.of_eq rfl rfl rfl (fun _ h => h) (fun _ h => h)
        (produced_defer (answers_ne_produced ht))
        ⟨[], (List.append_nil _).symm, by simp⟩)
  | dropTransport =>
      exact frame hI (.of_eq rfl rfl rfl (fun _ h => h)
        (fun _ h => (JsMap.mem_keys_delete.mp h).2) (fun _ => Nat.le_refl _)
        ⟨[], (List.append_nil _).symm, by simp⟩)
  -- the guard is about the mesh, so it is used here alone
  | mesh ha ht =>
      subst ha
      exact hb.mesh hwfb hout hg ht
  | transportAck ha h =>
      exact frame hI (transportAck_dupFrame hwfb _ h)
  -- a nack withdraws the request, and nothing takes its place
  | transportNack =>
      refine frame hI { DupFrame.refl uuid base with
        producing := fun p => Nat.add_le_add_left ?_ _ }
      split
      · rename_i h
        rw [if_pos (JsMap.mem_keys_delete.mp h).2]
      · exact Nat.zero_le _
  | publishUpdate =>
      exact frame hI (.of_eq rfl rfl rfl (fun _ h => h) (fun _ h => h)
        (fun _ => Nat.le_refl _) ⟨_, rfl, by simp⟩)
  -- an ack of an update may set the status of its transport
  | @updateAck id r resp ha h =>
      obtain ⟨heap, l, heq, hl, hheap⟩ := onUpdateAck_eq base id r resp
      rw [heq]
      refine frame hI { DupFrame.refl uuid base with
        heap := fun t T' hT' => ?_
        out := ⟨l, rfl, answers_no_mesh hl⟩ }
      rcases hheap with rfl | rfl
      · exact ⟨T', hT', rfl, rfl⟩
      · rcases JsMap.get?_modify_cases hT' with ⟨rfl, T, hT, rfl⟩ | ⟨-, hT'⟩
        · exact ⟨T, hT, rfl, rfl⟩
        · exact ⟨T', hT', rfl, rfl⟩
  | @updateNack id r message ha h =>
      obtain ⟨l, heq, hl⟩ := onUpdateNack_eq base id r message
      rw [heq]
      exact frame hI (.of_eq rfl rfl rfl (fun _ h => h) (fun _ h => h)
        (fun _ => Nat.le_refl _) ⟨l, rfl, answers_no_mesh fun o ho =>
          Out.answers_of_replies (hl o ho)⟩)

/-- Every effect keeps the invariant. -/
theorem dup_effect {base c c' : Coord κ} {a : Action κ}
    (hg : meshesInTurn uuid tr base a) (hout : base.out = [])
    (hwfb : CoordWF base) (hb : DupInv uuid tr base)
    (he : Effect base a c c') (hI : DupInv uuid tr c) :
    DupInv uuid tr c' := by
  have frame : ∀ {c c' : Coord κ}, DupInv uuid tr c →
      DupFrame uuid c c' → DupInv uuid tr c' := fun hI h => h.inv hI
  cases he with
  | media h => exact dup_media hg hout hwfb hb h hI
  -- a space that is created has no member
  | createSpace _ uuid' data policy hn =>
      refine frame hI (.of_eq rfl rfl rfl (fun m hm => ?_) (fun _ h => h)
        (fun _ => Nat.le_refl _) ⟨[], (List.append_nil _).symm, by simp⟩)
      simp only [Coord.membersOf, JsMap.get?_set] at hm ⊢
      by_cases h : uuid = uuid'
      · rw [if_pos h] at hm
        cases hm
      · rwa [if_neg h] at hm
  | unsubscribe | workers =>
      exact frame hI (.of_eq rfl rfl rfl (fun _ h => h) (fun _ h => h)
        (fun _ => Nat.le_refl _) ⟨[], (List.append_nil _).symm, by simp⟩)
  | subscribe | take =>
      exact frame hI (.of_eq rfl rfl rfl (fun _ h => h) (fun _ h => h)
        (produced_erase _) ⟨[], (List.append_nil _).symm, by simp⟩)
  | resolve =>
      exact frame hI (.of_eq rfl rfl rfl (fun _ h => h) (fun _ h => h)
        (produced_defer fun _ => by simp) ⟨_, rfl, by simp⟩)
  | request =>
      exact frame hI (.of_eq rfl rfl rfl (fun _ h => h) (fun _ h => h)
        (fun _ => Nat.le_refl _) ⟨_, rfl, by simp⟩)
  | routerAck ha hw =>
      rw [onRouterAck_eq hwfb.router _ hw]
      refine frame hI (.of_eq rfl rfl rfl (fun m hm => ?_) (fun _ h => h)
        (produced_defer fun _ => by simp) ⟨_, rfl, by simp⟩)
      rwa [Coord.membersOf, members_modify _ _ fun _ => by rfl] at hm
  | routerNack =>
      exact frame hI (.of_eq rfl rfl rfl (fun _ h => h) (fun _ h => h)
        (produced_defer fun _ => by simp)
        ⟨[], (List.append_nil _).symm, by simp⟩)
  -- a continuation that is taken is no producer's
  | run =>
      refine frame hI (.of_eq rfl rfl rfl (fun m hm => ?_) (fun _ h => h)
        (produced_erase _) ⟨[], (List.append_nil _).symm, by simp⟩)
      rwa [Coord.membersOf, SpaceService.setStatus,
        members_modify _ _ fun _ => by rfl] at hm
  | @finish i uuid' =>
      refine frame hI (.of_eq rfl rfl rfl (fun m hm => ?_) (fun _ h => h)
        (produced_erase _) ⟨[.routerCleared uuid', .onEnded uuid'], ?_,
          by simp⟩)
      · rwa [Coord.membersOf, Coord.afterEnd,
          members_modify _ _ (fun _ => by rfl),
          members_modify _ _ (fun _ => by rfl)] at hm
      · simp [Coord.afterEnd, Coord.without]
  | finishNow =>
      refine frame hI (.of_eq rfl rfl rfl (fun m hm => ?_) (fun _ h => h)
        (fun _ => Nat.le_refl _) ⟨_, rfl, by simp⟩)
      rwa [Coord.membersOf, SpaceService.setStatus,
        members_modify _ _ fun _ => by rfl] at hm
  -- a router that is removed takes transports with it, and adds none
  | @beginEnd _ uuid' space r k hs hd hr =>
      have hsub := fun t h =>
        ((remove_transports (c := c) (r := r) (t := t)).mp h).1
      obtain ⟨transports, routers, l, heq, hl⟩ := remove_eq c r
      rw [heq] at hsub ⊢
      refine frame hI (.of_eq rfl rfl rfl (fun _ h => h) hsub
        (produced_defer fun _ => by simp) ⟨l, rfl, fun m hm => ?_⟩)
      obtain ⟨_, h⟩ := hl _ hm
      cases h
  -- a member that joins has a producer request, and no edge yet
  | @join i uuid' data state cb r ha ht =>
      have hwf' : CoordWF (base.without i) :=
        ⟨(without_routerFrame base i).wf hwfb.router,
          { hwfb.member with }, hwfb.transport.without i⟩
      refine ((without_dupFrame uuid base i).inv hb).join hwf'
        (join_spec _ _ _ _ _) (fun m => ?_) rfl ?_
      · exact membersOf_add data state uuid' uuid
          (hwfb.router.allocatedKnown _ _ (List.mem_of_getElem? ht)) m
      · exact ⟨[.newWebRtcTransportRequest r base.transportIdGen true],
          List.append_assoc _ [_] [_], by simp⟩
  -- who leaves is no member any more
  | @removeMember _ cb id member ha hm hh hmc hc =>
      refine frame hI (.of_eq rfl rfl rfl (fun m hm => ?_) (fun _ h => h)
        (fun _ => Nat.le_refl _) ⟨[], (List.append_nil _).symm, by simp⟩)
      exact (membersOf_remove uuid m).mp hm |>.1

omit [Callback κ] in
theorem dupInv_initial : DupInv uuid [] (Coord.initial : Coord κ) where
  added _ h := by cases h
  known _ h := by cases h
  once _ := by simp [Coord.producing, Coord.initial]
  waiting _ _ h := by cases h
  edges _ h := by cases h
  unique _ h := by cases h

omit [Callback κ] in
/-- The outbox becomes part of the observations. -/
theorem DupInv.flush (hI : DupInv uuid tr c) :
    DupInv uuid (tr ++ c.out) { c with out := [] } where
  added m hm := by
    rw [List.append_nil]
    exact hI.added m hm
  known m hm := by
    rw [List.append_nil] at hm
    exact hI.known m hm
  once := hI.once
  waiting m p hp hpos := by
    rw [List.append_nil]
    exact hI.waiting m p hp hpos
  edges a ha b hb t he := by
    rw [List.append_nil]
    exact hI.edges a ha b hb t he
  unique := hI.unique

/-- **No duplicate consumer transports in every run whose meshes come in
turn.** -/
theorem noDuplicates_of_meshesInTurn (uuid : Uuid) {past : List (Coord κ)}
    {c : Coord κ} {tr : List (Out κ)}
    (h : (machine κ).Run (meshesInTurn uuid) past c tr) :
    NoDuplicates uuid c := by
  have hinv := run_invariant (G := meshesInTurn uuid)
    (fun _ _ a _ h => by cases a <;> exact h)
    (fun tr c => CoordWF c ∧ DupInv uuid tr c)
    ⟨coordWF_initial, dupInv_initial⟩
    (fun tr c hI => ⟨⟨{ hI.1.router with }, { hI.1.member with },
      { hI.1.transport with }⟩, hI.2.flush⟩)
    (fun tr c a d d' hout hg hb he hd => ⟨coordWF_effect hb.1 he hd.1,
      dup_effect hg hout hb.1 hb.2 he hd.2⟩) h
  exact .of_pairs ⟨{ hinv.1.router with }, { hinv.1.member with },
    { hinv.1.transport with }⟩ hinv.2.unique

end Runs

/-! ## §5. Two overlapping joins. -/

/-- Both members are there when the producer of either is allocated. -/
def overlappingJoins : List (Action Unit) :=
  openRoom ++ joinRoom "a" ++ joinRoom "b" ++
    [.transportAck 0 "a", .transportAck 1 "b", .resume 0, .resume 0]

/-- Each direction is requested twice: six transports for two members. -/
theorem six_transports : ∃ past c tr,
    (machine Unit).Run anyStep past c tr ∧ c.membersOf "room" = [0, 1] ∧
      c.edge 2 1 0 ∧ c.edge 5 1 0 ∧ (c.transportsOf "room").length = 6 ∧
      ¬ NoDuplicates "room" c := by
  obtain ⟨past, c, tr, hr, hp⟩ := Machine.Run.exists_of_exec
    (M := machine Unit) (G := anyStep) (l := overlappingJoins)
    (p := fun r => decide (r.2.1.membersOf "room" = [0, 1] ∧
      r.2.1.edge 2 1 0 ∧ r.2.1.edge 5 1 0 ∧
      (r.2.1.transportsOf "room").length = 6)) rfl (by decide)
  obtain ⟨hm, h₂, h₅, hlen⟩ := of_decide_eq_true hp
  refine ⟨past, c, tr, hr, hm, h₂, h₅, hlen, fun h => ?_⟩
  exact absurd (h.pairs 1 (by rw [hm]; decide) 0 (by rw [hm]; decide)
    (by decide) 2 5 h₂ h₅) (by decide)

/-- A member that joins after the mesh of the first one: four transports. -/
theorem noDuplicates_of_meshesInTurn_pair : ∃ past c tr,
    (machine Unit).Run (meshesInTurn "room") past c tr ∧
      c.membersOf "room" = [0, 1] ∧ (c.transportsOf "room").length = 4 ∧
      NoDuplicates "room" c := by
  obtain ⟨past, c, tr, hr, hp⟩ := Machine.Run.exists_of_exec
    (M := machine Unit) (G := meshesInTurn "room")
    (l := openRoom ++ joinRoom "a" ++ [.transportAck 0 "a", .resume 0] ++
      joinRoom "b" ++ [.transportAck 1 "b", .resume 0])
    (p := fun r => decide (r.2.1.membersOf "room" = [0, 1] ∧
      (r.2.1.transportsOf "room").length = 4)) rfl (by decide)
  obtain ⟨hm, hlen⟩ := of_decide_eq_true hp
  exact ⟨past, c, tr, hr, hm, hlen, noDuplicates_of_meshesInTurn "room" hr⟩

end Twolk.Coordinator
