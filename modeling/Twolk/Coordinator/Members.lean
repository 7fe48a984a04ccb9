/-
  Twolk.Coordinator.Members
  ─────────────────────────
  **MEMBER RECORDS ARE WELL FORMED.**

  `MemberService.members` and `space.members` are two tables of the same
  members: a member is in the table of the service exactly when it is in the
  table of its owning space.  Member ids are issued once and a record keeps
  its owning space, so an id names one member of one space for ever.
-/
import Twolk.Coordinator.Routers

namespace Twolk.Coordinator

open Twolk.Lib

variable {κ : Type}

/-! ## §1. Reading members. -/

/-- The owning space of a member that was ever added. -/
def Coord.spaceOf (c : Coord κ) (m : MemberId) : Option Uuid :=
  (c.memberHeap.get? m).map Member.owningSpace

/-- The keys of `space.members`. -/
def Coord.membersOf (c : Coord κ) (uuid : Uuid) : List MemberId :=
  ((c.spaces.get? uuid).map fun space => space.members.keys).getD []

/-- No member is listed twice. -/
theorem membersOf_nodup (c : Coord κ) (uuid : Uuid) :
    (c.membersOf uuid).Nodup := by
  unfold Coord.membersOf
  cases c.spaces.get? uuid with
  | none => exact List.nodup_nil
  | some space => exact JsMap.keys_nodup _

/-- What the code relies on when it follows a member id. -/
structure MemberWF (c : Coord κ) : Prop where
  fresh : ∀ m, c.spaceOf m ≠ none → m < c.memberIdGen
  stored : ∀ m ∈ c.members.keys, c.spaceOf m ≠ none
  mem : ∀ uuid m, m ∈ c.membersOf uuid ↔
    m ∈ c.members.keys ∧ c.spaceOf m = some uuid
  known : ∀ m uuid, c.spaceOf m = some uuid → c.statusOf uuid ≠ none

/-- `c'` has the members of `c`. -/
structure MemberFrame (c c' : Coord κ) : Prop where
  spaceOf : ∀ m, c'.spaceOf m = c.spaceOf m
  memberIdGen : c'.memberIdGen = c.memberIdGen
  members : c'.members = c.members
  membersOf : ∀ uuid, c'.membersOf uuid = c.membersOf uuid
  known : ∀ uuid, c.statusOf uuid ≠ none → c'.statusOf uuid ≠ none

namespace MemberFrame

variable {c c' : Coord κ}

theorem refl (c : Coord κ) : MemberFrame c c :=
  ⟨fun _ => rfl, rfl, rfl, fun _ => rfl, fun _ h => h⟩

/-- What keeps the members keeps the invariant. -/
theorem wf (h : MemberFrame c c') (hI : MemberWF c) : MemberWF c' where
  fresh m hm := by
    rw [h.spaceOf] at hm
    rw [h.memberIdGen]
    exact hI.fresh m hm
  stored m hm := by
    rw [h.spaceOf]
    exact hI.stored m (h.members ▸ hm)
  mem uuid m := by
    rw [h.membersOf, h.members, h.spaceOf]
    exact hI.mem uuid m
  known m uuid hm := by
    rw [h.spaceOf] at hm
    exact h.known uuid (hI.known m uuid hm)

end MemberFrame

theorem MediaFrame.members_eq {c c' : Coord κ} (h : MediaFrame c c') :
    MemberFrame c c' where
  spaceOf m := by
    have := congrArg (Option.map Prod.fst) (h.memberHeap m)
    rw [Option.map_map, Option.map_map] at this
    exact this
  memberIdGen := h.memberIdGen
  members := h.members
  membersOf uuid := by rw [Coord.membersOf, Coord.membersOf, h.spaces]
  known uuid hs := by
    rw [Coord.statusOf, h.spaces]
    exact hs

/-- A change of a space record that keeps its members. -/
theorem members_modify (spaces : JsMap Uuid Space) (uuid : Uuid)
    {f : Space → Space} (hf : ∀ s, (f s).members = s.members)
    (uuid' : Uuid) :
    (((spaces.modify uuid f).get? uuid').map
        fun space => space.members.keys).getD []
      = ((spaces.get? uuid').map fun space => space.members.keys).getD [] := by
  rw [JsMap.get?_modify]
  split
  · rename_i h
    subst h
    cases spaces.get? uuid' with
    | none => rfl
    | some s => exact congrArg JsMap.keys (hf s)
  · rfl

/-! ## §2. Members come and go. -/

section Effects

variable {c : Coord κ}

/-- The new member is listed in its space. -/
theorem membersOf_add (data : MemberData) (state : MemberState)
    (uuid uuid' : Uuid) (hk : c.statusOf uuid ≠ none) (m : MemberId) :
    m ∈ (MemberService.add c data state uuid).membersOf uuid' ↔
      m ∈ c.membersOf uuid' ∨ m = c.memberIdGen ∧ uuid' = uuid := by
  simp only [Coord.membersOf, MemberService.add, JsMap.get?_modify]
  by_cases h : uuid' = uuid
  · subst h
    rw [if_pos rfl]
    cases hs : c.spaces.get? uuid' with
    | none => exact absurd (by rw [Coord.statusOf, hs]; rfl) hk
    | some s =>
      simp only [Option.map_some, Option.getD_some, JsSet.mem_keys_add]
      rw [or_comm]
      simp
  · rw [if_neg h]
    simp [h]

theorem spaceOf_add (data : MemberData) (state : MemberState) (uuid : Uuid)
    (m : MemberId) : (MemberService.add c data state uuid).spaceOf m
      = if m = c.memberIdGen then some uuid else c.spaceOf m := by
  simp only [Coord.spaceOf, MemberService.add, JsMap.get?_set]
  split <;> rfl

/-- The next member id names no member yet. -/
theorem MemberWF.spaceOf_new (hI : MemberWF c) :
    c.spaceOf c.memberIdGen = none := by
  by_contra h
  exact absurd (hI.fresh _ h) (Nat.lt_irrefl _)

/-- A member is added under a fresh id. -/
theorem MemberWF.add (hI : MemberWF c) (data : MemberData)
    (state : MemberState) {uuid : Uuid} (hk : c.statusOf uuid ≠ none) :
    MemberWF (MemberService.add c data state uuid) := by
  have hnew := hI.spaceOf_new
  have hspace := fun m => spaceOf_add (c := c) data state uuid m
  have hmem : ∀ m, m ∈ (MemberService.add c data state uuid).members.keys ↔
      m = c.memberIdGen ∨ m ∈ c.members.keys := fun m => JsSet.mem_keys_add
  -- the id is fresh
  have hold : ∀ m ∈ c.members.keys, m ≠ c.memberIdGen := by
    rintro m hm rfl
    exact hI.stored _ hm hnew
  -- clause by clause: the new member, or one from before
  constructor
  case fresh =>
    intro m hm
    show m < c.memberIdGen + 1
    rw [hspace] at hm
    split at hm
    · rename_i h
      exact h ▸ Nat.lt_succ_self _
    · exact Nat.lt_succ_of_lt (hI.fresh m hm)
  case stored =>
    intro m hm
    rw [hspace]
    split
    · simp
    · rename_i h
      exact hI.stored m (((hmem m).mp hm).resolve_left h)
  case mem =>
    intro uuid' m
    rw [membersOf_add data state uuid uuid' hk, hI.mem, hmem, hspace]
    by_cases h : m = c.memberIdGen
    · subst h
      simp [hnew, eq_comm]
    · simp [h]
  case known =>
    intro m uuid' hm
    rw [hspace] at hm
    refine (known_modify c.spaces uuid _ uuid').mpr ?_
    split at hm
    · cases hm
      exact hk
    · exact hI.known m uuid' hm

/-- The removed member is listed no more. -/
theorem membersOf_remove {id : MemberId} {member : Member} (uuid : Uuid)
    (m : MemberId) :
    m ∈ (MemberService.remove c id member).membersOf uuid ↔
      m ∈ c.membersOf uuid ∧ ¬ (m = id ∧ member.owningSpace = uuid) := by
  simp only [Coord.membersOf, MemberService.remove, JsMap.get?_modify]
  by_cases h : uuid = member.owningSpace
  · subst h
    rw [if_pos rfl]
    cases c.spaces.get? member.owningSpace with
    | none => simp
    | some s =>
      simp only [Option.map_some, Option.getD_some, JsMap.mem_keys_delete]
      rw [and_comm]
      simp
  · rw [if_neg h]
    simp [Ne.symm h]

/-- A member is removed. -/
theorem MemberWF.remove (hI : MemberWF c) {id : MemberId} {member : Member}
    (hh : c.memberHeap.get? id = some member) :
    MemberWF (MemberService.remove c id member) := by
  have hid : c.spaceOf id = some member.owningSpace := by
    rw [Coord.spaceOf, hh]
    rfl
  constructor
  case fresh => exact hI.fresh
  case stored => exact fun m hm => hI.stored m (JsMap.mem_keys_delete.mp hm).2
  case mem =>
    intro uuid m
    rw [membersOf_remove, hI.mem]
    show _ ↔ m ∈ JsMap.keys (c.members.delete id) ∧ c.spaceOf m = some uuid
    rw [JsMap.mem_keys_delete]
    constructor
    · rintro ⟨⟨hm, hs⟩, hne⟩
      refine ⟨⟨?_, hm⟩, hs⟩
      rintro rfl
      exact hne ⟨rfl, Option.some.inj (hid.symm.trans hs)⟩
    · rintro ⟨⟨hne, hm⟩, hs⟩
      exact ⟨⟨hm, hs⟩, fun h => hne h.1⟩
  case known =>
    intro m uuid hm
    exact (known_modify c.spaces _ _ uuid).mpr (hI.known m uuid hm)

end Effects

/-! ## §3. Every reachable state. -/

section Reachable

variable [Callback κ]

/-- Every effect keeps the members in order. -/
theorem memberWF_effect {base c c' : Coord κ} {a : Action κ}
    (h : Effect base a c c') (hwf : RouterWF base) (hI : MemberWF c) :
    MemberWF c' := by
  cases h with
  | media h => exact h.frame.members_eq.wf hI
  -- a new space has no member, and the others keep theirs
  | createSpace _ uuid data policy hn =>
      refine MemberFrame.wf { MemberFrame.refl c with
        membersOf := fun uuid' => ?_
        known := fun uuid' hs => ?_ } hI
      · simp only [Coord.membersOf, JsMap.get?_set]
        by_cases h : uuid' = uuid
        · rw [if_pos h, h, hn]
          rfl
        · rw [if_neg h]
      · simp only [Coord.statusOf, JsMap.get?_set]
        split
        · simp
        · exact hs
  | subscribe | unsubscribe | workers | resolve | request
    | routerNack | take => exact { hI with }
  -- most effects change other fields of the space
  | routerAck ha hw =>
      rw [onRouterAck_eq hwf _ hw]
      refine MemberFrame.wf ?_ hI
      exact ⟨fun _ => rfl, rfl, rfl, members_modify _ _ fun _ => by rfl,
        fun uuid => (known_modify _ _ _ uuid).mpr⟩
  | run | finishNow =>
      refine MemberFrame.wf ?_ hI
      exact ⟨fun _ => rfl, rfl, rfl, members_modify _ _ fun _ => by rfl,
        fun uuid => (known_modify _ _ _ uuid).mpr⟩
  | @finish i uuid =>
      refine MemberFrame.wf ?_ hI
      exact ⟨fun _ => rfl, rfl, rfl,
        fun uuid' => (members_modify _ _ (fun _ => by rfl) uuid').trans
          (members_modify _ _ (fun _ => by rfl) uuid'),
        fun uuid' hs => (known_modify _ _ _ uuid').mpr
          ((known_modify _ _ _ uuid').mpr hs)⟩
  | @beginEnd _ uuid space r =>
      obtain ⟨transports, routers, l, heq, -⟩ := remove_eq c r
      rw [heq]
      exact { hI with }
  -- a member joins a space that is still known
  | @join i uuid data state cb r ha ht =>
      refine (TransportAllocator.request_frame _ _ _ _).members_eq.wf ?_
      have hI' : MemberWF (base.without i) := { hI with }
      refine hI'.add _ _ ?_
      exact (hwf.allocatedKnown _ _ (List.mem_of_getElem? ht))
  -- the registry and the space lose the member together
  | removeMember _ ha hm hh hmc hc => exact hI.remove (hc ▸ hh)

end Reachable

end Twolk.Coordinator
