/-
  Twolk.Bus.InProcessBus
  ──────────────────────
  **THE IN-PROCESS MESSAGE BUS.**

  Embeds `bus.ts`: a set of callbacks for each queue and for each kind of
  registration event, and the synchronous walk over a set that `publish` and
  the registrations make.

  A callback runs inside the walk.  Before it returns it may consume, cancel
  and publish, on the very queue it is called from; or it throws, which ends
  the walk for the callbacks after it.  The process is the bus with the
  stack of its walks, the innermost first; an action is a call of the bus by
  whatever code is running, or the end of the running callback.

  Main result:
    * `forEach_delivers` — in every run, a walk calls registered callbacks
      only, in the order of their registration, each with the arguments of
      the walk; one that is not cut short has called every callback then
      registered exactly once.
-/
import Twolk.Lib.LiveSet
import Twolk.Lib.Machine
import Twolk.Domain

namespace Twolk.Bus

open Twolk.Lib

/-! ## §1. The bus. -/

/-- Queue names present in both payload and response contracts. -/
inductive QueueTypes
  | createSpaceRequest | readSpaceRequest | newRouterRequest
  | newWebRtcTransportRequest | subscribeToSpaceRequest | addMemberRequest
  | removeMemberRequest | unsubscribeFromSpaceRequest | tryJoinSpaceRequest
  | spaceUpdateStream | transportUpdateStream
deriving DecidableEq, Repr

/-- The callback sets of the bus: one for each queue, and four for the
registration events. -/
inductive CallbackSet
  | queueConsumerCallbacks (queueName : QueueTypes)
  | serverConnectedCbs | serverDisconnectedCbs
  | workerConnectedCbs | workerDisconnectedCbs
deriving DecidableEq, Repr

/-- What a callback is called with.  A delivery is a payload with the ack and
nack callbacks of its publisher. -/
inductive Args (P : Type)
  | delivery (payload : P)
  | serverConnected (serverId : ServerId) (serverUrl : String)
  | serverDisconnected (serverId : ServerId)
  | workerConnected (workerId : WorkerId)
  | workerDisconnected (workerId : WorkerId)
deriving DecidableEq, Repr

/-- The callback sets of the bus. -/
structure InProcessBus (Cb : Type) where
  callbacks : CallbackSet → LiveSet Cb

namespace InProcessBus

variable {Cb : Type} [DecidableEq Cb]

/-- `new InProcessBus()`. -/
def new : InProcessBus Cb := ⟨fun _ => ∅⟩

/-- `set.add(callback)`. -/
def add (bus : InProcessBus Cb) (set : CallbackSet) (callback : Cb) :
    InProcessBus Cb :=
  ⟨Function.update bus.callbacks set ((bus.callbacks set).add callback)⟩

/-- `set.delete(callback)`. -/
def delete (bus : InProcessBus Cb) (set : CallbackSet) (callback : Cb) :
    InProcessBus Cb :=
  ⟨Function.update bus.callbacks set ((bus.callbacks set).delete callback)⟩

/-- `consume(queueName, callback)`. -/
def consume (bus : InProcessBus Cb) (queueName : QueueTypes) (callback : Cb) :
    InProcessBus Cb :=
  bus.add (.queueConsumerCallbacks queueName) callback

/-- What `consume` returns. -/
def cancelCallback (bus : InProcessBus Cb) (queueName : QueueTypes)
    (callback : Cb) : InProcessBus Cb :=
  bus.delete (.queueConsumerCallbacks queueName) callback

/-- `onSignalingServerConnected(cb)`. -/
def onSignalingServerConnected (bus : InProcessBus Cb) (cb : Cb) :
    InProcessBus Cb :=
  bus.add .serverConnectedCbs cb

/-- `onSignalingServerDisconnected(cb)`. -/
def onSignalingServerDisconnected (bus : InProcessBus Cb) (cb : Cb) :
    InProcessBus Cb :=
  bus.add .serverDisconnectedCbs cb

/-- `onMediaWorkerConnected(cb)`. -/
def onMediaWorkerConnected (bus : InProcessBus Cb) (cb : Cb) :
    InProcessBus Cb :=
  bus.add .workerConnectedCbs cb

/-- `onMediaWorkerDisconnected(cb)`. -/
def onMediaWorkerDisconnected (bus : InProcessBus Cb) (cb : Cb) :
    InProcessBus Cb :=
  bus.add .workerDisconnectedCbs cb

end InProcessBus

/-! ## §2. The process. -/

/-- A running `forEach`. -/
structure Frame (P : Type) where
  walk : Nat
  set : CallbackSet
  args : Args P
  cursor : Nat

/-- The bus with the walks over its sets, the innermost first.  The callback
running, if any, is called by the innermost one. -/
structure Process (Cb P : Type) where
  bus : InProcessBus Cb
  stack : List (Frame P)
  walks : Nat

/-- What happens in a walk. -/
inductive Mark (Cb P : Type)
  | started (walk : Nat) (set : CallbackSet) (args : Args P)
  | called (walk : Nat) (callback : Cb) (registered : Nat) (args : Args P)
  | finished (walk : Nat)
  | aborted (walk : Nat)
deriving DecidableEq

namespace Process

variable {Cb P : Type} [DecidableEq Cb]

/-- A new bus, and no walk. -/
def initial : Process Cb P := ⟨.new, [], 0⟩

/-- The set under a walk. -/
def callbacks (p : Process Cb P) (set : CallbackSet) : LiveSet Cb :=
  p.bus.callbacks set

/-- A walk begins. -/
def enter (p : Process Cb P) (set : CallbackSet) (args : Args P) :
    Process Cb P :=
  { p with stack := ⟨p.walks, set, args, 0⟩ :: p.stack, walks := p.walks + 1 }

/-- The innermost walk calls its next callback, or ends. -/
def resume (p : Process Cb P) : Process Cb P × List (Mark Cb P) :=
  match p.stack with
  | [] => (p, [])
  | f :: rest =>
      match (p.callbacks f.set).from? f.cursor with
      | some (callback, n) =>
          ({ p with stack := { f with cursor := n + 1 } :: rest },
            [.called f.walk callback n f.args])
      | none => ({ p with stack := rest }, [.finished f.walk])

/-- `set.forEach`, to its first callback. -/
def forEach (p : Process Cb P) (set : CallbackSet) (args : Args P) :
    Process Cb P × List (Mark Cb P) :=
  let r := (p.enter set args).resume
  (r.1, .started p.walks set args :: r.2)

/-- `publish(queueName, payload)`: every consumer of the queue is called. -/
def publish (p : Process Cb P) (queueName : QueueTypes) (payload : P) :
    Process Cb P × List (Mark Cb P) :=
  p.forEach (.queueConsumerCallbacks queueName) (.delivery payload)

/-- `registerSignalingServer(serverId, serverUrl)`. -/
def registerSignalingServer (p : Process Cb P) (serverId : ServerId)
    (serverUrl : String) : Process Cb P × List (Mark Cb P) :=
  p.forEach .serverConnectedCbs (.serverConnected serverId serverUrl)

/-- What `registerSignalingServer` returns. -/
def deregisterSignalingServer (p : Process Cb P) (serverId : ServerId) :
    Process Cb P × List (Mark Cb P) :=
  p.forEach .serverDisconnectedCbs (.serverDisconnected serverId)

/-- `registerMediaWorker(workerId)`. -/
def registerMediaWorker (p : Process Cb P) (workerId : WorkerId) :
    Process Cb P × List (Mark Cb P) :=
  p.forEach .workerConnectedCbs (.workerConnected workerId)

/-- What `registerMediaWorker` returns. -/
def deregisterMediaWorker (p : Process Cb P) (workerId : WorkerId) :
    Process Cb P × List (Mark Cb P) :=
  p.forEach .workerDisconnectedCbs (.workerDisconnected workerId)

end Process

/-- A call of the bus, a call of a function it returned (`off…`,
`cancelCallback`, `deregister…`), or the end of the running callback. -/
inductive BusAction (Cb P : Type)
  | consume (queueName : QueueTypes) (callback : Cb)
  | cancelCallback (queueName : QueueTypes) (callback : Cb)
  | publish (queueName : QueueTypes) (payload : P)
  | registerSignalingServer (serverId : ServerId) (serverUrl : String)
  | deregisterSignalingServer (serverId : ServerId)
  | onSignalingServerConnected (cb : Cb)
  | offSignalingServerConnected (cb : Cb)
  | onSignalingServerDisconnected (cb : Cb)
  | offSignalingServerDisconnected (cb : Cb)
  | registerMediaWorker (workerId : WorkerId)
  | deregisterMediaWorker (workerId : WorkerId)
  | onMediaWorkerConnected (cb : Cb)
  | offMediaWorkerConnected (cb : Cb)
  | onMediaWorkerDisconnected (cb : Cb)
  | offMediaWorkerDisconnected (cb : Cb)
  | returns
  | throws

namespace Process

variable {Cb P : Type} [DecidableEq Cb]

/-- A change of a set, with no walk. -/
def changed (p : Process Cb P) (bus : InProcessBus Cb) :
    Option (Process Cb P × List (Mark Cb P)) :=
  some ({ p with bus }, [])

/-- One call on the bus, or the end of the callback on top. -/
def step (p : Process Cb P) :
    BusAction Cb P → Option (Process Cb P × List (Mark Cb P))
  | .consume queueName callback =>
      p.changed (p.bus.consume queueName callback)
  | .cancelCallback queueName callback =>
      p.changed (p.bus.cancelCallback queueName callback)
  | .publish queueName payload => some (p.publish queueName payload)
  | .registerSignalingServer serverId serverUrl =>
      some (p.registerSignalingServer serverId serverUrl)
  | .deregisterSignalingServer serverId =>
      some (p.deregisterSignalingServer serverId)
  | .onSignalingServerConnected cb =>
      p.changed (p.bus.onSignalingServerConnected cb)
  | .offSignalingServerConnected cb =>
      p.changed (p.bus.delete .serverConnectedCbs cb)
  | .onSignalingServerDisconnected cb =>
      p.changed (p.bus.onSignalingServerDisconnected cb)
  | .offSignalingServerDisconnected cb =>
      p.changed (p.bus.delete .serverDisconnectedCbs cb)
  | .registerMediaWorker workerId => some (p.registerMediaWorker workerId)
  | .deregisterMediaWorker workerId => some (p.deregisterMediaWorker workerId)
  | .onMediaWorkerConnected cb => p.changed (p.bus.onMediaWorkerConnected cb)
  | .offMediaWorkerConnected cb =>
      p.changed (p.bus.delete .workerConnectedCbs cb)
  | .onMediaWorkerDisconnected cb =>
      p.changed (p.bus.onMediaWorkerDisconnected cb)
  | .offMediaWorkerDisconnected cb =>
      p.changed (p.bus.delete .workerDisconnectedCbs cb)
  | .returns =>
      -- only a callback returns to the bus
      if p.stack = [] then none else some p.resume
  | .throws =>
      match p.stack with
      | [] => none
      | f :: rest => some ({ p with stack := rest }, [.aborted f.walk])

end Process

/-- The bus under any callers. -/
def machine (Cb P : Type) [DecidableEq Cb] :
    Machine (Process Cb P) (BusAction Cb P) (Mark Cb P) where
  init p := p = .initial
  step p a := p.step a

/-! ## §3. What a step can do. -/

variable {Cb P : Type}

/-- A call of the walk `w`: the callback, and when it was registered. -/
def Mark.callOf (w : Nat) : Mark Cb P → Option (Cb × Nat)
  | .called walk callback n _ => if walk = w then some (callback, n) else none
  | _ => none

/-- The calls of the walk `w`, in order. -/
def callsOf (w : Nat) (tr : List (Mark Cb P)) : List (Cb × Nat) :=
  tr.filterMap (Mark.callOf w)

@[simp] theorem callsOf_append (w : Nat) (tr obs : List (Mark Cb P)) :
    callsOf w (tr ++ obs) = callsOf w tr ++ callsOf w obs :=
  List.filterMap_append

variable [DecidableEq Cb] {p p' : Process Cb P} {a : BusAction Cb P}
  {tr obs : List (Mark Cb P)} {past : List (Process Cb P)}

/-- The kinds of steps. -/
inductive Process.Stepped (p p' : Process Cb P) (obs : List (Mark Cb P)) :
    Prop
  | added (set : CallbackSet) (callback : Cb) :
      p' = { p with bus := p.bus.add set callback } → obs = [] →
      Stepped p p' obs
  | deleted (set : CallbackSet) (callback : Cb) :
      p' = { p with bus := p.bus.delete set callback } → obs = [] →
      Stepped p p' obs
  | walked (set : CallbackSet) (args : Args P) :
      p.forEach set args = (p', obs) → Stepped p p' obs
  | returned : p.resume = (p', obs) → Stepped p p' obs
  | thrown (f : Frame P) (rest : List (Frame P)) :
      p.stack = f :: rest → p' = { p with stack := rest } →
      obs = [.aborted f.walk] → Stepped p p' obs

/-- Every step is one of these. -/
theorem Process.stepped (h : p.step a = some (p', obs)) :
    p.Stepped p' obs := by
  cases a with
  | consume queueName cb => cases h; exact .added _ cb rfl rfl
  | onSignalingServerConnected cb | onSignalingServerDisconnected cb
  | onMediaWorkerConnected cb | onMediaWorkerDisconnected cb =>
      cases h
      exact .added _ cb rfl rfl
  | cancelCallback queueName cb => cases h; exact .deleted _ cb rfl rfl
  | offSignalingServerConnected cb | offSignalingServerDisconnected cb
  | offMediaWorkerConnected cb | offMediaWorkerDisconnected cb =>
      cases h
      exact .deleted _ cb rfl rfl
  | publish queueName payload => exact .walked _ _ (Option.some.inj h)
  | registerSignalingServer serverId serverUrl =>
      exact .walked _ _ (Option.some.inj h)
  | deregisterSignalingServer id | registerMediaWorker id
  | deregisterMediaWorker id => exact .walked _ _ (Option.some.inj h)
  | returns =>
      simp only [step] at h
      split at h
      · cases h
      · exact .returned (Option.some.inj h)
  | throws =>
      simp only [step] at h
      split at h
      · cases h
      · rename_i f rest hstack
        cases h
        exact .thrown f rest hstack rfl rfl

omit [DecidableEq Cb] in
/-- What resuming the innermost walk can do. -/
theorem Process.resume_cases (p : Process Cb P) :
    (p.stack = [] ∧ p.resume = (p, [])) ∨ ∃ f rest, p.stack = f :: rest ∧
      ((∃ cb n, (p.callbacks f.set).from? f.cursor = some (cb, n) ∧ p.resume =
          ({ p with stack := { f with cursor := n + 1 } :: rest },
            [.called f.walk cb n f.args])) ∨
        ((p.callbacks f.set).from? f.cursor = none ∧
          p.resume = ({ p with stack := rest }, [.finished f.walk]))) := by
  unfold resume
  split
  · rename_i hstack
    exact .inl ⟨hstack, rfl⟩
  · rename_i f rest hstack
    refine .inr ⟨f, rest, hstack, ?_⟩
    split
    · rename_i cb n hnext
      exact .inl ⟨cb, n, hnext, rfl⟩
    · rename_i hend
      exact .inr ⟨hend, rfl⟩

/-! ## §4. The walks of a run. -/

/-- What holds of the marks so far, when `walks` walks have begun. -/
structure Numbered (walks : Nat) (tr : List (Mark Cb P)) : Prop where
  below : ∀ w set args, .started w set args ∈ tr → w < walks
  single : ∀ w set set' args args', .started w set args ∈ tr →
    .started w set' args' ∈ tr → set = set' ∧ args = args'
  called : ∀ w cb n args, .called w cb n args ∈ tr →
    ∃ set, .started w set args ∈ tr

namespace Numbered

variable {walks w : Nat} {set : CallbackSet} {args : Args P}

omit [DecidableEq Cb] in
theorem nil : Numbered walks ([] : List (Mark Cb P)) where
  below _ _ _ h := absurd h List.not_mem_nil
  single _ _ _ _ _ h := absurd h List.not_mem_nil
  called _ _ _ _ h := absurd h List.not_mem_nil

omit [DecidableEq Cb] in
/-- A walk that did not begin has not called. -/
theorem callsOf_eq_nil (h : Numbered walks tr) (hw : walks ≤ w) :
    callsOf w tr = [] := by
  refine List.filterMap_eq_nil_iff.mpr fun mark hmark => ?_
  cases mark with
  | called walk cb n args =>
      obtain ⟨set, hset⟩ := h.called walk cb n args hmark
      have hlt := h.below walk set args hset
      exact if_neg (by omega)
  | started _ _ _ | finished _ | aborted _ => rfl

omit [DecidableEq Cb] in
/-- When the next walk begins, the numbers stay in order. -/
theorem start (h : Numbered walks tr) (set : CallbackSet) (args : Args P) :
    Numbered (walks + 1) (tr ++ [.started walks set args]) := by
  have hstarted : ∀ {w set' args'}, .started w set' args' ∈
      tr ++ [.started walks set args] → .started w set' args' ∈ tr ∨
        w = walks ∧ set' = set ∧ args' = args := by
    intro w set' args' hin
    refine (List.mem_append.mp hin).imp_right fun hin => ?_
    cases List.mem_singleton.mp hin
    exact ⟨rfl, rfl, rfl⟩
  refine ⟨?_, ?_, ?_⟩
  · intro w set' args' hin
    rcases hstarted hin with hin | ⟨rfl, -, -⟩
    · exact Nat.lt_succ_of_lt (h.below w set' args' hin)
    · exact Nat.lt_succ_self _
  · intro w set₁ set₂ args₁ args₂ h₁ h₂
    rcases hstarted h₁ with hold | ⟨rfl, rfl, rfl⟩
    · rcases hstarted h₂ with hold' | ⟨rfl, -, -⟩
      · exact h.single w _ _ _ _ hold hold'
      · exact absurd (h.below _ _ _ hold) (Nat.lt_irrefl _)
    · rcases hstarted h₂ with hold' | ⟨-, rfl, rfl⟩
      · exact absurd (h.below _ _ _ hold') (Nat.lt_irrefl _)
      · exact ⟨rfl, rfl⟩
  · intro w cb n args' hin
    rcases List.mem_append.mp hin with hin | hin
    · obtain ⟨set', hset'⟩ := h.called w cb n args' hin
      exact ⟨set', List.mem_append_left _ hset'⟩
    · cases List.mem_singleton.mp hin

omit [DecidableEq Cb] in
/-- So they do after any mark of a walk that has begun. -/
theorem mark (h : Numbered walks tr) {mark : Mark Cb P}
    (hnot : ∀ w set args, mark ≠ .started w set args)
    (hcall : ∀ w cb n args, mark = .called w cb n args →
      ∃ set, .started w set args ∈ tr) : Numbered walks (tr ++ [mark]) := by
  have hold : ∀ {w set args}, .started w set args ∈ tr ++ [mark] →
      .started w set args ∈ tr := by
    intro w set args hin
    rcases List.mem_append.mp hin with hin | hin
    · exact hin
    · exact absurd (List.mem_singleton.mp hin).symm (hnot w set args)
  refine ⟨fun w set args hin => h.below w set args (hold hin),
    fun w _ _ _ _ hin hin' => h.single w _ _ _ _ (hold hin) (hold hin'), ?_⟩
  intro w cb n args hin
  have hset : ∃ set, .started w set args ∈ tr := by
    rcases List.mem_append.mp hin with hin | hin
    · exact h.called w cb n args hin
    · exact hcall w cb n args (List.mem_singleton.mp hin).symm
  obtain ⟨set, hset⟩ := hset
  exact ⟨set, List.mem_append_left _ hset⟩

end Numbered

/-- What holds of the running walks. -/
structure Going (p : Process Cb P) (tr : List (Mark Cb P)) : Prop where
  walked : ∀ f ∈ p.stack,
    (p.callbacks f.set).Walked f.cursor (callsOf f.walk tr)
  started : ∀ f ∈ p.stack, .started f.walk f.set f.args ∈ tr
  distinct : (p.stack.map Frame.walk).Nodup
  numbered : Numbered p.walks tr

namespace Going

theorem initial : Going (Process.initial : Process Cb P) [] where
  walked _ hf := absurd hf List.not_mem_nil
  started _ hf := absurd hf List.not_mem_nil
  distinct := .nil
  numbered := .nil

/-- A set may change under the walks that are over it, if each of them has
still walked the set as it is now. -/
theorem update (h : Going p tr) {set : CallbackSet} {s : LiveSet Cb}
    (hs : ∀ cursor visited, (p.callbacks set).Walked cursor visited →
      s.Walked cursor visited) :
    Going { p with bus := ⟨Function.update p.bus.callbacks set s⟩ } tr :=
  { h with
    walked := by
      intro f hf
      show ((Function.update p.bus.callbacks set s) f.set).Walked _ _
      by_cases hset : f.set = set
      · subst hset
        rw [Function.update_self]
        exact hs _ _ (h.walked f hf)
      · rw [Function.update_of_ne hset]
        exact h.walked f hf }

/-- A walk begins, at the start of its set. -/
theorem enter (h : Going p tr) (set : CallbackSet) (args : Args P) :
    Going (p.enter set args) (tr ++ [.started p.walks set args]) := by
  refine ⟨?_, ?_, ?_, h.numbered.start set args⟩
  · intro f hf
    rw [callsOf_append]
    show LiveSet.Walked _ _ (callsOf f.walk tr ++ [])
    rw [List.append_nil]
    rcases List.mem_cons.mp hf with rfl | hf
    · rw [h.numbered.callsOf_eq_nil (Nat.le_refl p.walks)]
      exact .start _
    · exact h.walked f hf
  · intro f hf
    rcases List.mem_cons.mp hf with rfl | hf
    · exact List.mem_append_right _ List.mem_cons_self
    · exact List.mem_append_left _ (h.started f hf)
  · show (p.walks :: p.stack.map Frame.walk).Nodup
    refine List.nodup_cons.mpr ⟨fun hin => ?_, h.distinct⟩
    obtain ⟨f, hf, heq⟩ := List.mem_map.mp hin
    have hlt := h.numbered.below _ _ _ (h.started f hf)
    omega

variable {f : Frame P} {rest : List (Frame P)}

/-- When the innermost walk is over, the ones below go on. -/
theorem leave (h : Going p tr) (hstack : p.stack = f :: rest)
    {mark : Mark Cb P}
    (hmark : mark = .finished f.walk ∨ mark = .aborted f.walk) :
    Going { p with stack := rest } (tr ++ [mark]) := by
  have hin : ∀ g ∈ rest, g ∈ p.stack := by
    rw [hstack]
    exact fun g => List.mem_cons_of_mem f
  have hcalls : ∀ w, callsOf w [mark] = [] := by
    intro w
    rcases hmark with rfl | rfl <;> rfl
  have hdistinct := h.distinct
  rw [hstack] at hdistinct
  refine ⟨?_, ?_, hdistinct.of_cons, h.numbered.mark ?_ ?_⟩
  · intro g hg
    rw [callsOf_append, hcalls, List.append_nil]
    exact h.walked g (hin g hg)
  · exact fun g hg => List.mem_append_left _ (h.started g (hin g hg))
  · rintro w set args rfl
    rcases hmark with hmark | hmark <;> cases hmark
  · rintro w cb n args rfl
    rcases hmark with hmark | hmark <;> cases hmark

/-- The innermost walk calls its next callback, and has then visited it. -/
theorem call (h : Going p tr) (hstack : p.stack = f :: rest) {cb : Cb}
    {n : Nat} (hnext : (p.callbacks f.set).from? f.cursor = some (cb, n)) :
    Going { p with stack := { f with cursor := n + 1 } :: rest }
      (tr ++ [.called f.walk cb n f.args]) := by
  have hf : f ∈ p.stack := by
    rw [hstack]
    exact List.mem_cons_self
  -- the walks below are those from before
  have hin : ∀ g ∈ rest, g ∈ p.stack := by
    rw [hstack]
    exact fun g => List.mem_cons_of_mem f
  have hdistinct := h.distinct
  rw [hstack] at hdistinct
  refine ⟨?_, ?_, hdistinct, h.numbered.mark ?_ ?_⟩
  · intro g hg
    rw [callsOf_append]
    rcases List.mem_cons.mp hg with rfl | hg
    · -- its own calls
      show LiveSet.Walked _ (n + 1) (callsOf f.walk tr ++ _)
      rw [show callsOf f.walk [.called f.walk cb n f.args] = [(cb, n)] by
        simp [callsOf, Mark.callOf]]
      exact (h.walked f hf).visit hnext
    · -- the walk below calls nothing
      have hne : f.walk ≠ g.walk := by
        intro heq
        have hnot := (List.nodup_cons.mp hdistinct).1
        rw [heq] at hnot
        exact hnot (List.mem_map_of_mem hg)
      show LiveSet.Walked _ g.cursor (callsOf g.walk tr ++ _)
      rw [show callsOf g.walk [.called f.walk cb n f.args] = [] by
        simp [callsOf, Mark.callOf, hne], List.append_nil]
      exact h.walked g (hin g hg)
  -- the started marks are those from before
  · intro g hg
    refine List.mem_append_left _ ?_
    rcases List.mem_cons.mp hg with rfl | hg
    · exact h.started f hf
    · exact h.started g (hin g hg)
  · intro w set args heq
    cases heq
  · intro w cb' n' args heq
    cases heq
    exact ⟨f.set, h.started f hf⟩

/-- Whatever the innermost walk does next, every walk stays in order. -/
theorem resume (h : Going p tr) : Going p.resume.1 (tr ++ p.resume.2) := by
  rcases p.resume_cases with
    ⟨-, heq⟩ | ⟨f, rest, hstack, ⟨cb, n, hnext, heq⟩ | ⟨-, heq⟩⟩
  · rw [heq, List.append_nil]
    exact h
  · rw [heq]
    exact h.call hstack hnext
  · rw [heq]
    exact h.leave hstack (.inl rfl)

/-- **One step** keeps every walk in order. -/
theorem step (h : Going p tr) (hs : p.step a = some (p', obs)) :
    Going p' (tr ++ obs) := by
  cases Process.stepped hs with
  | added set cb hp hobs =>
      rw [hp, hobs, List.append_nil]
      exact h.update fun _ _ hwalked => hwalked.add cb
  | deleted set cb hp hobs =>
      rw [hp, hobs, List.append_nil]
      exact h.update fun _ _ hwalked => hwalked.delete cb
  | walked set args heq =>
      cases heq
      have hall := (h.enter set args).resume
      rwa [List.append_assoc] at hall
  | returned heq =>
      have hall := h.resume
      rwa [heq] at hall
  | thrown f rest hstack hp hobs =>
      rw [hp, hobs]
      exact h.leave hstack (.inr rfl)

/-- **In every run** each walk under way has visited what is behind its cursor.
-/
theorem run (h : (machine Cb P).Run anyStep past p tr) : Going p tr := by
  refine h.invariant Going ?_ ?_
  · rintro _ rfl
    exact .initial
  · exact fun _ _ _ _ _ hI _ hs => hI.step hs

end Going

/-! ## §5. Delivery. -/

/-- What holds of a call: the walk is over a set with that callback in it; it
has called whatever was registered earlier and still is; and it has called
nothing registered later, nor the callback itself. -/
structure Calls (p : Process Cb P) (before tr : List (Mark Cb P)) (w : Nat)
    (cb : Cb) (n : Nat) (args : Args P) : Prop where
  registered : ∃ set, .started w set args ∈ tr ∧
    (p.callbacks set).stampOf cb = some n ∧
    ∀ cb' n', (p.callbacks set).stampOf cb' = some n' → n' < n →
      (cb', n') ∈ callsOf w before
  ordered : ∀ e ∈ callsOf w before, e.2 < n

/-- What holds of a walk over `set` that has come to its end. -/
structure Delivers (p : Process Cb P) (tr : List (Mark Cb P)) (w : Nat)
    (set : CallbackSet) (args : Args P) : Prop where
  started : .started w set args ∈ tr
  same_args : ∀ cb n args', .called w cb n args' ∈ tr → args' = args
  once : ∀ cb n, (p.callbacks set).stampOf cb = some n →
    (callsOf w tr).count (cb, n) = 1
  in_order : (∀ e ∈ callsOf w tr,
      (p.callbacks set).stampOf e.1 = some e.2) →
    (callsOf w tr).map Prod.fst = (p.callbacks set).elements

/-- When the innermost walk goes on it calls the next callback in turn, or has
delivered to all of them. -/
theorem Going.resume_delivers (h : Going p tr) :
    (∀ w cb n args, .called w cb n args ∈ p.resume.2 →
      Calls p.resume.1 tr (tr ++ p.resume.2) w cb n args) ∧
    (∀ w, .finished w ∈ p.resume.2 →
      ∃ set args, Delivers p.resume.1 (tr ++ p.resume.2) w set args) := by
  rcases p.resume_cases with
    ⟨-, heq⟩ | ⟨f, rest, hstack, ⟨cb, n, hnext, heq⟩ | ⟨hend, heq⟩⟩
  -- nothing is on the stack, and nothing is observed
  · rw [heq]
    exact ⟨fun _ _ _ _ hin => absurd hin List.not_mem_nil,
      fun _ hin => absurd hin List.not_mem_nil⟩
  -- the frame on top calls what its cursor finds next
  · have hf : f ∈ p.stack := by
      rw [hstack]
      exact List.mem_cons_self
    obtain ⟨hk, hle, -⟩ := LiveSet.from?_eq_some hnext
    rw [heq]
    refine ⟨fun w cb' n' args hin => ?_, fun w hin => ?_⟩
    · cases List.mem_singleton.mp hin
      have hwalked := h.walked f hf
      refine ⟨⟨f.set, List.mem_append_left _ (h.started f hf), hk,
        fun cb' n' hk' hlt => hwalked.skips_nothing hnext hk' hlt⟩, ?_⟩
      -- what it called before has a smaller stamp
      intro e he
      exact Nat.lt_of_lt_of_le (hwalked.behind e he) hle
    · cases List.mem_singleton.mp hin
  -- the frame on top has nothing left to call, and ends
  · have hf : f ∈ p.stack := by
      rw [hstack]
      exact List.mem_cons_self
    rw [heq]
    refine ⟨fun w cb' n' args hin => ?_, fun w hin => ?_⟩
    · cases List.mem_singleton.mp hin
    · cases List.mem_singleton.mp hin
      have hcalls : callsOf f.walk (tr ++ [.finished f.walk]) =
          callsOf f.walk tr := by
        rw [callsOf_append]
        exact List.append_nil _
      have hwalked := h.walked f hf
      refine ⟨f.set, f.args, List.mem_append_left _ (h.started f hf),
        fun cb n args hin => ?_, fun cb n hk => ?_, fun hstill => ?_⟩
      -- a walk has one `started` mark, so all its calls carry its arguments
      · rcases List.mem_append.mp hin with hin | hin
        · obtain ⟨set, hset⟩ := h.numbered.called _ cb n args hin
          exact (h.numbered.single _ _ _ _ _ hset (h.started f hf)).2
        · cases List.mem_singleton.mp hin
      · rw [hcalls]
        exact hwalked.done hend hk
      -- with nobody unregistered meanwhile, the calls are the whole set in
      -- order
      · rw [hcalls] at hstill ⊢
        rw [hwalked.eq_entries hend fun k n hin => hstill (k, n) hin]
        rfl

/-- **Delivery.**  In every run, whatever the callbacks do to the bus and
however the walks nest: a walk calls a callback that is registered at that
moment, with its own arguments, after all those registered before it and
before all those registered after it.  A walk that is not cut short has then
called every callback registered at its end once, and exactly those in their
order unless one it called was cancelled. -/
theorem forEach_delivers (h : (machine Cb P).Run anyStep past p tr)
    (hs : p.step a = some (p', obs)) :
    (∀ w cb n args, .called w cb n args ∈ obs →
      Calls p' tr (tr ++ obs) w cb n args) ∧
    (∀ w, .finished w ∈ obs →
      ∃ set args, Delivers p' (tr ++ obs) w set args) := by
  have hgoing := Going.run h
  cases Process.stepped hs with
  | added set cb hp hobs | deleted set cb hp hobs =>
      rw [hobs]
      exact ⟨fun _ _ _ _ hin => absurd hin List.not_mem_nil,
        fun _ hin => absurd hin List.not_mem_nil⟩
  | walked set args heq =>
      cases heq
      obtain ⟨hcalls, hends⟩ := (hgoing.enter set args).resume_delivers
      rw [List.append_cons]
      refine ⟨fun w cb n args' hin => ?_, fun w hin => ?_⟩
      · rcases List.mem_cons.mp hin with hin | hin
        · cases hin
        · obtain ⟨⟨set', hset, hk, hearlier⟩, hordered⟩ :=
            hcalls w cb n args' hin
          -- the start of a walk calls nothing
          have hstart : callsOf w (tr ++ [.started p.walks set args]) =
              callsOf w tr := by
            rw [callsOf_append]
            exact List.append_nil _
          rw [hstart] at hearlier hordered
          exact ⟨⟨set', hset, hk, hearlier⟩, hordered⟩
      · rcases List.mem_cons.mp hin with hin | hin
        · cases hin
        · exact hends w hin
  | returned heq =>
      have hall := hgoing.resume_delivers
      rwa [heq] at hall
  | thrown f rest hstack hp hobs =>
      rw [hobs]
      refine ⟨fun w cb n args hin => ?_, fun w hin => ?_⟩
      · cases List.mem_singleton.mp hin
      · cases List.mem_singleton.mp hin

section Reentrant

/-- Two consumers; the first one, when called, cancels the second and adds a
third, and publishes on another queue that has a consumer. -/
def reentrant : List (BusAction Nat String) :=
  [.consume .spaceUpdateStream 1, .consume .spaceUpdateStream 2,
   .consume .transportUpdateStream 5, .publish .spaceUpdateStream "outer",
   .cancelCallback .spaceUpdateStream 2, .consume .spaceUpdateStream 3,
   .publish .transportUpdateStream "inner", .returns, .returns]

/-- The outer walk, once it ends, has called the first and the third. -/
theorem forEach_delivers_reentrant : ∃ (p : Process Nat String)
    (tr : List (Mark Nat String)) (set : CallbackSet) (args : Args String),
    Delivers p tr 0 set args ∧
      callsOf 0 tr = [(1, 0), (3, 2)] := by
  obtain ⟨past, p, tr, hr, hp⟩ := Machine.Run.exists_of_exec
    (M := machine Nat String) (G := anyStep) (l := reentrant)
    (p := fun r => (r.2.1.step .returns).any
      fun (q : Process Nat String × List (Mark Nat String)) => decide
        (.finished 0 ∈ q.2 ∧ callsOf 0 (r.2.2 ++ q.2) = [(1, 0), (3, 2)]))
    rfl (by decide)
  obtain ⟨q, hq, hdec⟩ := (Option.any_eq_true _ _).mp hp
  obtain ⟨hfin, hcalls⟩ := of_decide_eq_true hdec
  obtain ⟨-, hends⟩ := forEach_delivers hr hq
  obtain ⟨set, args, hdelivers⟩ := hends 0 hfin
  exact ⟨q.1, tr ++ q.2, set, args, hdelivers, hcalls⟩

end Reentrant

/-! ## §6. Undisturbed walks. -/

/-- The innermost walks go on `n` times, with callbacks that leave the bus
alone. -/
def Process.drain : Nat → Process Cb P → Process Cb P × List (Mark Cb P)
  | 0, p => (p, [])
  | n + 1, p =>
      let r := p.resume
      let rest := drain n r.1
      (rest.1, r.2 ++ rest.2)

omit [DecidableEq Cb] in
/-- A walk with callbacks that leave the bus alone calls what is ahead of its
cursor. By induction on that. -/
theorem Process.drain_walk (f : Frame P) (rest : List (Frame P)) :
    ∀ (post pre : List (Cb × Nat)) (cursor : Nat) (p : Process Cb P),
      p.stack = { f with cursor } :: rest →
      (p.callbacks f.set).stamps.entries = pre ++ post →
      (∀ e ∈ pre, e.2 < cursor) → (∀ e ∈ post, cursor ≤ e.2) →
      p.drain (post.length + 1) = ({ p with stack := rest },
        post.map (fun e => .called f.walk e.1 e.2 f.args) ++
          [.finished f.walk])
  | [], pre, cursor, p, hstack, hentries, hpre, hpost => by
      -- nothing is left above the cursor, and the frame ends
      have hend := LiveSet.from?_append hentries hpre hpost
      show (p.resume.1, p.resume.2 ++ []) = _
      unfold resume
      rw [hstack]
      dsimp only
      rw [hend]
      rfl
  | e :: post, pre, cursor, p, hstack, hentries, hpre, hpost => by
      -- the head of the list is the next stamp at or above the cursor
      have hnext := LiveSet.from?_append hentries hpre hpost
      have hascending := (p.callbacks f.set).ascending
      rw [hentries] at hascending
      have hahead := (List.pairwise_cons.mp
        (List.pairwise_append.mp hascending).2.1).1
      have hle := hpost e List.mem_cons_self
      have hresume : p.resume =
          ({ p with stack := { f with cursor := e.2 + 1 } :: rest },
            [.called f.walk e.1 e.2 f.args]) := by
        unfold resume
        rw [hstack]
        dsimp only
        rw [hnext]
        rfl
      -- the cursor is behind the head now, so the head joins what lies before
      -- it
      have hrest := drain_walk f rest post (pre ++ [e]) (e.2 + 1) p.resume.1
        (by rw [hresume]) (by
          rw [hresume, List.append_assoc]
          exact hentries) ?_ hahead
      · show ((drain (post.length + 1) p.resume.1).1,
          p.resume.2 ++ (drain (post.length + 1) p.resume.1).2) = _
        rw [hrest, hresume]
        rfl
      · intro x hx
        rcases List.mem_append.mp hx with hx | hx
        · have hlt := hpre x hx
          omega
        · rw [List.mem_singleton.mp hx]
          exact Nat.lt_succ_self _

omit [DecidableEq Cb] in
/-- **An undisturbed walk** calls the elements in order and leaves the
process as it was. -/
theorem Process.drain_enter (p : Process Cb P) (set : CallbackSet)
    (args : Args P) :
    (p.enter set args).drain ((p.callbacks set).elements.length + 1) =
      ({ p with walks := p.walks + 1 },
        (p.callbacks set).stamps.entries.map
          (fun e => .called p.walks e.1 e.2 args) ++ [.finished p.walks]) := by
  have hlength : (p.callbacks set).elements.length =
      (p.callbacks set).stamps.entries.length := List.length_map _
  rw [hlength]
  exact drain_walk ⟨p.walks, set, args, 0⟩ p.stack _ [] 0 _ rfl rfl
    (fun _ he => absurd he List.not_mem_nil) (fun _ _ => Nat.zero_le _)

omit [DecidableEq Cb] in
/-- An undisturbed walk calls each element once. -/
theorem callsOf_drain_enter (p : Process Cb P) (set : CallbackSet)
    (args : Args P) :
    (callsOf p.walks ((p.enter set args).drain
      ((p.callbacks set).elements.length + 1)).2).map Prod.fst =
        (p.callbacks set).elements := by
  rw [Process.drain_enter, callsOf_append]
  have hcalls : ∀ entries : List (Cb × Nat), callsOf p.walks
      (entries.map fun e => Mark.called p.walks e.1 e.2 args) = entries := by
    intro entries
    induction entries with
    | nil => rfl
    | cons e entries ih =>
        rw [List.map_cons, ← List.singleton_append, callsOf_append, ih]
        simp [callsOf, Mark.callOf]
  rw [hcalls]
  exact congrArg _ (List.append_nil _)

end Twolk.Bus
