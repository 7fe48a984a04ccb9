/-
  Twolk.Web.Readiness
  ───────────────────
  **THE READINESS OF THE TRANSPORT FACTORY.**

  `transport.ts`: a `TransportFactory` is ready once its device is loaded
  and an audio context is assigned.  Either may come second; what is given
  to `onceReady` before waits in a queue, which `notifyReady` drains.

  `init` awaits `device.load(..)`: the device is loaded when that call
  succeeds, and the rest of `init` runs in a stretch of its own.  A handler
  may call the factory again; what it calls is part of the handler, so
  quantifying over handlers quantifies over all that return.

  Main result: `handlers_run_once` — every handler runs once, in order, and
  not before the factory is ready.
-/
import Twolk.Lib.Machine

namespace Twolk.Web.Readiness

open Twolk.Lib

/-! ## §1. The factory. -/

/-- What a running handler calls. -/
inductive HandlerCall where
  | onceReady (handler : List HandlerCall)
  | assignAudioContext (suspended : Bool)

/-- The body of a handler: the calls it makes. -/
abbrev Handler := List HandlerCall

/-- `TransportFactory`, and what was observed of its handlers. -/
structure TransportFactory where
  /-- `_mediasoupDevice.loaded`. -/
  loaded : Bool
  /-- `_audioContext !== null`. -/
  audioContext : Bool
  isReady : Bool
  /-- The handlers waiting, by the number of their registration. -/
  onceReadyHandlers : List (Nat × Handler)
  /-- Calls of `init` whose `device.load(..)` has succeeded and whose rest
  is to run. -/
  resuming : Nat
  -- what was observed
  registrations : Nat
  /-- The registrations that had to wait. -/
  queued : List Nat
  /-- The registrations whose handler has run, in order, and whether both
  the device was loaded and a context assigned then. -/
  ran : List (Nat × Bool)

namespace TransportFactory

/-- `new TransportFactory(mediasoupDevice, socket)`. -/
def initial : TransportFactory where
  loaded := false
  audioContext := false
  isReady := false
  onceReadyHandlers := []
  resuming := 0
  registrations := 0
  queued := []
  ran := []

/-- `handler()` begins. -/
def start (w : TransportFactory) (registration : Nat) : TransportFactory :=
  { w with ran := w.ran ++ [(registration, w.loaded && w.audioContext)] }

/-- `onceReady(handler)`: the next registration. -/
def register (w : TransportFactory) : TransportFactory :=
  { w with registrations := w.registrations + 1 }

/-- `_onceReadyHandlers.push(handler)`. -/
def push (w : TransportFactory) (registration : Nat) (handler : Handler) :
    TransportFactory :=
  { w with
    onceReadyHandlers := w.onceReadyHandlers ++ [(registration, handler)]
    queued := w.queued ++ [registration] }

mutual

/-- A call made by a running handler.  The factory is ready by then, so
`assignAudioContext` finds `!this._isReady` false and only stores the
context; what it throws stays within the handler. -/
def call (w : TransportFactory) : HandlerCall → TransportFactory
  | .onceReady handler =>
      if w.isReady then runAll (w.register.start w.registrations) handler
      else w.register.push w.registrations handler
  | .assignAudioContext suspended =>
      if suspended then w else { w with audioContext := true }

/-- The calls of a handler in turn. -/
def runAll (w : TransportFactory) : List HandlerCall → TransportFactory
  | [] => w
  | c :: calls => runAll (call w c) calls

end

/-- `handler()`. -/
def run (w : TransportFactory) (entry : Nat × Handler) : TransportFactory :=
  (w.start entry.1).runAll entry.2

/-- `onceReady(handler)`. -/
def onceReady (w : TransportFactory) (handler : Handler) :
    TransportFactory :=
  if w.isReady then w.register.run (w.registrations, handler)
  else w.register.push w.registrations handler

/-- `notifyReady()`. -/
def notifyReady (w : TransportFactory) : TransportFactory :=
  { w.onceReadyHandlers.foldl run w with onceReadyHandlers := [] }

/-- `_isReady = true`, `notifyReady()`. -/
def becomeReady (w : TransportFactory) : TransportFactory :=
  notifyReady { w with isReady := true }

/-- `device.load(..)` succeeds, called by some `init`. -/
def load (w : TransportFactory) : TransportFactory :=
  { w with loaded := true, resuming := w.resuming + 1 }

/-- The rest of `init` after its `await`. -/
def resumeInit (w : TransportFactory) : TransportFactory :=
  let w := { w with resuming := w.resuming - 1 }
  if !w.isReady && w.audioContext then w.becomeReady else w

/-- `assignAudioContext(audioContext)`. -/
def assignAudioContext (w : TransportFactory) (suspended : Bool) :
    Except String TransportFactory :=
  if suspended then .error "audio context must be running"
  else
    let w := { w with audioContext := true }
    .ok (if !w.isReady && w.loaded then w.becomeReady else w)

end TransportFactory

/-- What can happen to the factory next.  A load that fails changes nothing:
`init` is rejected. -/
inductive Action where
  | load
  | resumeInit
  | assignAudioContext (suspended : Bool)
  | onceReady (handler : Handler)

open TransportFactory in
/-- The factory machine. -/
def machine : Machine TransportFactory Action Unit where
  init w := w = initial
  step w
    | .load => some (w.load, [])
    | .resumeInit => if w.resuming = 0 then none else some (w.resumeInit, [])
    | .assignAudioContext suspended =>
        match w.assignAudioContext suspended with
        | .error _ => some (w, [])
        | .ok w => some (w, [])
    | .onceReady handler => some (w.onceReady handler, [])

namespace TransportFactory

variable {w w' w'' : TransportFactory}

/-! ## §2. What a handler does. -/

/-- Handlers ran while the factory was ready: `k` more were registered, and
each of them ran. -/
structure Ran (w w' : TransportFactory) : Prop where
  loaded : w'.loaded = w.loaded
  audioContext : w'.audioContext = w.audioContext
  isReady : w'.isReady = w.isReady
  handlers : w'.onceReadyHandlers = w.onceReadyHandlers
  resuming : w'.resuming = w.resuming
  queued : w'.queued = w.queued
  ran : ∃ l k, w'.ran = w.ran ++ l ∧
    w'.registrations = w.registrations + k ∧
    (l.map Prod.fst).Perm (List.range' w.registrations k) ∧
    ∀ e ∈ l, e.2 = true

theorem Ran.refl (w : TransportFactory) : Ran w w :=
  ⟨rfl, rfl, rfl, rfl, rfl, rfl, [], 0, (List.append_nil _).symm, rfl, .nil,
    fun _ he => absurd he List.not_mem_nil⟩

theorem Ran.trans (h : Ran w w') (h' : Ran w' w'') : Ran w w'' where
  loaded := h'.loaded.trans h.loaded
  audioContext := h'.audioContext.trans h.audioContext
  isReady := h'.isReady.trans h.isReady
  handlers := h'.handlers.trans h.handlers
  resuming := h'.resuming.trans h.resuming
  queued := h'.queued.trans h.queued
  ran := by
    obtain ⟨l, k, hran, hreg, hperm, hboth⟩ := h.ran
    obtain ⟨l', k', hran', hreg', hperm', hboth'⟩ := h'.ran
    refine ⟨l ++ l', k + k', ?_, ?_, ?_, fun e he => ?_⟩
    · rw [hran', hran, List.append_assoc]
    · rw [hreg', hreg, Nat.add_assoc]
    · rw [List.map_append, ← List.range'_append_1, ← hreg]
      exact hperm.append hperm'
    · exact (List.mem_append.mp he).elim (hboth e) (hboth' e)

/-- Handlers run when both the device is loaded and a context assigned. -/
structure Both (w : TransportFactory) : Prop where
  loaded : w.loaded = true
  audioContext : w.audioContext = true

theorem Ran.both (h : Ran w w') (hb : Both w) : Both w' :=
  ⟨h.loaded.trans hb.loaded, h.audioContext.trans hb.audioContext⟩

/-- A registration while the factory is ready: its handler begins, and what
the handler registers runs as well. -/
theorem Ran.cons (hb : Both w)
    (h : Ran (w.register.start w.registrations) w') : Ran w w' where
  loaded := h.loaded
  audioContext := h.audioContext
  isReady := h.isReady
  handlers := h.handlers
  resuming := h.resuming
  queued := h.queued
  ran := by
    obtain ⟨l, k, hran, hreg, hperm, hboth⟩ := h.ran
    refine ⟨(w.registrations, true) :: l, k + 1, ?_, ?_, ?_, fun e he => ?_⟩
    · rw [hran]
      show (w.ran ++ [(w.registrations, w.loaded && w.audioContext)]) ++ l
        = w.ran ++ (w.registrations, true) :: l
      rw [hb.loaded, hb.audioContext, List.append_assoc]
      rfl
    · rw [hreg]
      show w.registrations + 1 + k = w.registrations + (k + 1)
      omega
    · rw [List.range'_succ]
      exact hperm.cons _
    · rcases List.mem_cons.mp he with rfl | he
      · rfl
      · exact hboth e he

mutual

/-- A call of a running handler, by induction on what it does. -/
theorem call_ran (w : TransportFactory) (hr : w.isReady = true)
    (hb : Both w) : ∀ c : HandlerCall, Ran w (w.call c)
  | .onceReady handler => by
      unfold call
      rw [if_pos hr]
      exact .cons hb (runAll_ran (w.register.start w.registrations) hr
        ⟨hb.loaded, hb.audioContext⟩ handler)
  | .assignAudioContext suspended => by
      unfold call
      split
      · exact .refl w
      · have hsame : { w with audioContext := true } = w := by
          rw [← hb.audioContext]
        rw [hsame]
        exact .refl w

/-- Once ready, handlers run at once, those they register included. -/
theorem runAll_ran (w : TransportFactory) (hr : w.isReady = true)
    (hb : Both w) : ∀ calls : List HandlerCall, Ran w (w.runAll calls)
  | [] => by
      unfold runAll
      exact .refl w
  | c :: calls => by
      unfold runAll
      have hfirst := call_ran w hr hb c
      exact hfirst.trans (runAll_ran _ (hfirst.isReady.trans hr)
        (hfirst.both hb) calls)

end

/-! ## §3. Draining the queue. -/

/-- The queue was drained: its handlers ran in order, and what they
registered ran in between. -/
structure Drained (entries : List (Nat × Handler))
    (w w' : TransportFactory) : Prop where
  loaded : w'.loaded = w.loaded
  audioContext : w'.audioContext = w.audioContext
  isReady : w'.isReady = w.isReady
  queued : w'.queued = w.queued
  ran : ∃ l k, w'.ran = w.ran ++ l ∧
    w'.registrations = w.registrations + k ∧
    (l.map Prod.fst).Perm
      (entries.map Prod.fst ++ List.range' w.registrations k) ∧
    (entries.map Prod.fst).Sublist (l.map Prod.fst) ∧
    ∀ e ∈ l, e.2 = true

/-- The `forEach` of `notifyReady`, by induction on the queue. -/
theorem foldl_drained : ∀ (entries : List (Nat × Handler))
    {w : TransportFactory}, w.isReady = true → Both w →
      Drained entries w (entries.foldl run w)
  | [], w, _, _ =>
      ⟨rfl, rfl, rfl, rfl, [], 0, (List.append_nil _).symm, rfl, .nil, .slnil,
        fun _ he => absurd he List.not_mem_nil⟩
  | entry :: entries, w, hr, hb => by
      have hfirst : Ran (w.start entry.1) (w.run entry) :=
        runAll_ran (w.start entry.1) hr ⟨hb.loaded, hb.audioContext⟩ entry.2
      have hrest := foldl_drained entries (hfirst.isReady.trans hr)
        (hfirst.both ⟨hb.loaded, hb.audioContext⟩)
      obtain ⟨l, k, hran, hreg, hperm, hboth⟩ := hfirst.ran
      obtain ⟨l', k', hran', hreg', hperm', hsub, hboth'⟩ := hrest.ran
      have hstart : (w.start entry.1).ran = w.ran ++ [(entry.1, true)] := by
        unfold start
        rw [hb.loaded, hb.audioContext]
        rfl
      refine ⟨hrest.loaded.trans hfirst.loaded,
        hrest.audioContext.trans hfirst.audioContext,
        hrest.isReady.trans hfirst.isReady,
        hrest.queued.trans hfirst.queued,
        (entry.1, true) :: (l ++ l'), k + k', ?_, ?_, ?_, ?_,
        fun e he => ?_⟩
      · show (entries.foldl run (w.run entry)).ran = _
        rw [hran', hran, hstart]
        simp
      · show (entries.foldl run (w.run entry)).registrations = _
        rw [hreg', hreg]
        exact Nat.add_assoc _ k k'
      · rw [List.map_cons, List.map_cons, List.map_append, List.cons_append,
          ← List.range'_append_1]
        refine .cons _ ?_
        rw [hreg] at hperm'
        refine (hperm.append hperm').trans ?_
        rw [← List.append_assoc, ← List.append_assoc]
        exact List.perm_append_comm.append_right _
      · rw [List.map_cons, List.map_cons, List.map_append]
        exact (hsub.trans (List.sublist_append_right _ _)).cons_cons _
      · rcases List.mem_cons.mp he with rfl | he
        · rfl
        · exact (List.mem_append.mp he).elim (hboth e) (hboth' e)

/-! ## §4. What holds of the factory at any time. -/

/-- Every registration has run once or waits, none ran early, and the queue
kept its order. -/
structure Ordered (w : TransportFactory) : Prop where
  once : (w.ran.map Prod.fst ++ w.onceReadyHandlers.map Prod.fst).Perm
    (List.range w.registrations)
  both : ∀ e ∈ w.ran, e.2 = true
  sorted : w.queued.Pairwise (· < ·)
  waiting : w.isReady = false →
    w.ran = [] ∧ w.onceReadyHandlers.map Prod.fst = w.queued
  ready : w.isReady = true → w.onceReadyHandlers = [] ∧ Both w ∧
    w.queued.Sublist (w.ran.map Prod.fst)
  /-- A call of `init` that is to resume has loaded the device. -/
  resumes : w.resuming ≠ 0 → w.loaded = true

theorem Ordered.queue_perm (h : Ordered w) (hr : w.isReady = false) :
    (w.onceReadyHandlers.map Prod.fst).Perm (List.range w.registrations) := by
  have honce := h.once
  rwa [(h.waiting hr).1, List.map_nil, List.nil_append] at honce

theorem Ordered.ran_perm (h : Ordered w) (hr : w.isReady = true) :
    (w.ran.map Prod.fst).Perm (List.range w.registrations) := by
  have honce := h.once
  rwa [(h.ready hr).1, List.map_nil, List.append_nil] at honce

/-- No handler takes the readiness back. -/
theorem becomeReady_isReady (hb : Both w) : w.becomeReady.isReady = true :=
  (foldl_drained (w := { w with isReady := true }) w.onceReadyHandlers rfl
    ⟨hb.loaded, hb.audioContext⟩).isReady

/-- The queue runs in order. -/
theorem Ordered.becomeReady (h : Ordered w) (hr : w.isReady = false)
    (hb : Both w) : Ordered w.becomeReady := by
  obtain ⟨hran₀, hqueue⟩ := h.waiting hr
  have hd := foldl_drained (w := { w with isReady := true })
    w.onceReadyHandlers rfl ⟨hb.loaded, hb.audioContext⟩
  obtain ⟨l, k, hran, hreg, hperm, hsub, hboth⟩ := hd.ran
  have hall : w.becomeReady.ran = l := by
    refine hran.trans ?_
    show w.ran ++ l = l
    rw [hran₀]
    rfl
  have hboth' : Both w.becomeReady :=
    ⟨hd.loaded.trans hb.loaded, hd.audioContext.trans hb.audioContext⟩
  refine ⟨?_, ?_, ?_, fun hn => ?_, fun _ => ⟨rfl, hboth', ?_⟩,
    fun _ => hboth'.loaded⟩
  · show (w.becomeReady.ran.map Prod.fst ++ []).Perm _
    rw [hall, List.append_nil]
    show (l.map Prod.fst).Perm (List.range (List.foldl run _ _).registrations)
    rw [hreg, List.range_eq_range', ← List.range'_append_1, Nat.zero_add,
      ← List.range_eq_range']
    exact hperm.trans ((h.queue_perm hr).append_right _)
  · rw [hall]
    exact hboth
  · exact hd.queued ▸ h.sorted
  · rw [becomeReady_isReady hb] at hn
    cases hn
  · rw [hall, show w.becomeReady.queued = w.queued from hd.queued, ← hqueue]
    exact hsub

/-- One of the two conditions comes to hold, or a call resumes. -/
theorem Ordered.set (h : Ordered w) {loaded audioContext : Bool}
    {resuming : Nat} (hl : w.loaded = true → loaded = true)
    (ha : w.audioContext = true → audioContext = true)
    (resumes : resuming ≠ 0 → loaded = true) :
    Ordered { w with loaded, audioContext, resuming } where
  once := h.once
  both := h.both
  sorted := h.sorted
  waiting := h.waiting
  ready hr :=
    have h' := h.ready hr
    ⟨h'.1, ⟨hl h'.2.1.loaded, ha h'.2.1.audioContext⟩, h'.2.2⟩
  resumes := resumes

/-- A handler that is registered too early waits at the end of the queue. -/
theorem Ordered.push (h : Ordered w) (handler : Handler)
    (hr : w.isReady = false) :
    Ordered (w.register.push w.registrations handler) := by
  obtain ⟨hran₀, hqueue⟩ := h.waiting hr
  have hperm := h.queue_perm hr
  have hnew : (w.onceReadyHandlers ++ [(w.registrations, handler)]).map
      Prod.fst = w.queued ++ [w.registrations] := by
    rw [List.map_append, hqueue]
    rfl
  refine ⟨?_, h.both, ?_, fun _ => ⟨hran₀, hnew⟩, fun hn => ?_, h.resumes⟩
  · show (w.ran.map Prod.fst ++ (w.onceReadyHandlers ++
      [(w.registrations, handler)]).map Prod.fst).Perm
        (List.range (w.registrations + 1))
    rw [hran₀, hnew, List.range_succ, ← hqueue]
    exact hperm.append_right _
  · -- the new registration has the highest number
    show (w.queued ++ [w.registrations]).Pairwise (· < ·)
    refine List.pairwise_append.mpr ⟨h.sorted, List.pairwise_singleton _ _,
      fun i hi j hj => ?_⟩
    rw [List.mem_singleton.mp hj]
    rw [← hqueue] at hi
    exact List.mem_range.mp (hperm.mem_iff.mp hi)
  · rw [show w.isReady = true from hn] at hr
    cases hr

/-- Handlers that run while the factory is ready run once each. -/
theorem Ordered.ran (h : Ordered w) (hr : w.isReady = true)
    (hrun : Ran w w') : Ordered w' := by
  obtain ⟨hempty, hb, hsub⟩ := h.ready hr
  obtain ⟨l, k, hran, hreg, hperm, hboth⟩ := hrun.ran
  refine ⟨?_, fun e he => ?_, ?_, fun hn => ?_, fun _ =>
    ⟨hrun.handlers.trans hempty, hrun.both hb, ?_⟩,
    fun _ => (hrun.both hb).loaded⟩
  · rw [hrun.handlers, hempty, List.map_nil, List.append_nil, hran, hreg,
      List.map_append, List.range_eq_range', ← List.range'_append_1,
      Nat.zero_add, ← List.range_eq_range']
    exact (h.ran_perm hr).append hperm
  · rw [hran] at he
    exact (List.mem_append.mp he).elim (h.both e) (hboth e)
  · exact hrun.queued ▸ h.sorted
  · rw [hrun.isReady, hr] at hn
    cases hn
  · rw [hrun.queued, hran, List.map_append]
    exact hsub.trans (List.sublist_append_left _ _)

theorem onceReady_ran (hr : w.isReady = true) (hb : Both w)
    (handler : Handler) : Ran w (w.onceReady handler) := by
  unfold onceReady
  rw [if_pos hr]
  exact .cons hb (runAll_ran (w.register.start w.registrations) hr
    ⟨hb.loaded, hb.audioContext⟩ handler)

/-! ## §5. Runs. -/

/-- Loading is the last thing that has happened to the two conditions: the
`init` it belongs to has yet to resume. -/
def LoadedLast (log : List Action) : Prop :=
  Since (· = .load)
    (fun a => a = .resumeInit ∨ a = .assignAudioContext false) log

theorem LoadedLast.append {log : List Action} (h : LoadedLast log)
    {a : Action} (ha : a ≠ .resumeInit ∧ a ≠ .assignAudioContext false) :
    LoadedLast (log ++ [a]) :=
  since_append.mpr (.inr ⟨h, not_or.mpr ha⟩)

/-- The factory is ready when both conditions hold, up to the `init` that is
to resume. -/
def Prompt (w : TransportFactory) (log : List Action) : Prop :=
  Both w → w.isReady = false → LoadedLast log

variable {log : List Action}

theorem Prompt.of_ready (h : w.isReady = true) : Prompt w log := by
  intro _ hn
  rw [h] at hn
  cases hn

/-- The test of `init` and of `assignAudioContext`: `c` is the condition
that may be missing. -/
theorem Ordered.test (h : Ordered w) {c : Bool}
    (hc : c = true → Both w) (hb : Both w → c = true) (log : List Action) :
    Ordered (if !w.isReady && c then w.becomeReady else w) ∧
      Prompt (if !w.isReady && c then w.becomeReady else w) log := by
  cases hr : w.isReady with
  | true => exact ⟨h, .of_ready hr⟩
  | false =>
      cases c with
      | false => exact ⟨h, fun hboth => absurd (hb hboth) (by decide)⟩
      | true =>
          have hboth := hc rfl
          exact ⟨h.becomeReady hr hboth,
            .of_ready (becomeReady_isReady hboth)⟩

/-- Whatever happens to the factory, by its kind, keeps its handlers in order.
-/
theorem step_ordered (h : Ordered w) (hp : Prompt w log) {a : Action}
    {obs : List Unit} (hs : machine.step w a = some (w', obs)) :
    Ordered w' ∧ Prompt w' (log ++ [a]) := by
  cases a with
  | load =>
      cases hs
      exact ⟨h.set (fun _ => rfl) id fun _ => rfl,
        fun _ _ => since_append.mpr (.inl rfl)⟩
  | resumeInit =>
      simp only [machine] at hs
      split at hs
      · cases hs
      · rename_i hresuming
        cases hs
        have hloaded := h.resumes hresuming
        have hset : Ordered { w with resuming := w.resuming - 1 } :=
          h.set id id fun _ => hloaded
        exact hset.test (fun hc => ⟨hloaded, hc⟩) Both.audioContext _
  | assignAudioContext suspended =>
      cases suspended with
      | true =>
          cases hs
          exact ⟨h, fun hb hr => (hp hb hr).append (by simp)⟩
      | false =>
          cases hs
          have hset : Ordered { w with audioContext := true } :=
            h.set id (fun _ => rfl) h.resumes
          exact hset.test (fun hc => ⟨hc, rfl⟩) Both.loaded _
  | onceReady handler =>
      cases hs
      cases hr : w.isReady with
      | true =>
          have hrun := onceReady_ran hr (h.ready hr).2.1 handler
          exact ⟨h.ran hr hrun, .of_ready (hrun.isReady.trans hr)⟩
      | false =>
          unfold TransportFactory.onceReady
          rw [hr]
          exact ⟨h.push handler hr, fun hb _ =>
            (hp ⟨hb.loaded, hb.audioContext⟩ hr).append (by simp)⟩

end TransportFactory

open TransportFactory

variable {past : List (TransportFactory × List Action)}
  {s : TransportFactory × List Action} {tr : List Unit}

/-- **In every run** handlers run once, in order, and none too early. -/
theorem run_ordered
    (h : machine.recorded.Run (Machine.unrecorded anyStep) past s tr) :
    Ordered s.1 ∧ Prompt s.1 s.2 := by
  refine h.recorded_invariant (fun w log _ => Ordered w ∧ Prompt w log)
    (fun w hw => ?_) fun w log _ a w' obs _ hI _ hs =>
      step_ordered hI.1 hI.2 hs
  obtain rfl : w = initial := hw
  refine ⟨⟨.nil, fun _ he => absurd he List.not_mem_nil, .nil,
    fun _ => ⟨rfl, rfl⟩, fun hr => ?_, fun hr => absurd rfl hr⟩,
    fun hb => ?_⟩
  · cases hr
  · cases hb.loaded

/-- **Handlers run once, in order, and when the factory is ready.**  In
every run: each registration has either run, once, or waits, and none waits
when the factory is ready; those that had to wait run in the order of their
registration; none runs before the device is loaded and a context assigned;
and when both hold, none is left waiting, except from the load of the device
until the `init` that loaded it resumes, or a context is assigned. -/
theorem handlers_run_once
    (h : machine.recorded.Run (Machine.unrecorded anyStep) past s tr) :
    (s.1.ran.map Prod.fst ++ s.1.onceReadyHandlers.map Prod.fst).Perm
        (List.range s.1.registrations) ∧
      (s.1.isReady = true → s.1.onceReadyHandlers = []) ∧
      s.1.queued.Pairwise (· < ·) ∧
      (s.1.isReady = true → s.1.queued.Sublist (s.1.ran.map Prod.fst)) ∧
      (∀ e ∈ s.1.ran, e.2 = true) ∧
      (s.1.loaded = true → s.1.audioContext = true →
        ¬ LoadedLast s.2 → s.1.onceReadyHandlers = []) := by
  obtain ⟨ho, hp⟩ := run_ordered h
  refine ⟨ho.once, fun hr => (ho.ready hr).1, ho.sorted,
    fun hr => (ho.ready hr).2.2, ho.both, fun hl ha hn => ?_⟩
  cases hr : s.1.isReady with
  | true => exact (ho.ready hr).1
  | false => exact absurd (hp ⟨hl, ha⟩ hr) hn

/-- Two handlers wait, the first of which registers a third one; the device
is loaded before a context is assigned. -/
theorem handlers_run_once_three : ∃ past s tr,
    machine.recorded.Run (Machine.unrecorded anyStep) past s tr ∧
      s.1.ran = [(0, true), (2, true), (1, true)] ∧
      (∀ e ∈ s.1.ran, e.2 = true) ∧ s.1.onceReadyHandlers = [] := by
  obtain ⟨past, s, tr, h, hs⟩ := Machine.Run.exists_of_exec
    (M := machine.recorded) (G := Machine.unrecorded anyStep)
    (l := [.onceReady [.onceReady []], .onceReady [], .load,
      .assignAudioContext false, .resumeInit])
    (s := (initial, []))
    (p := fun r => decide (r.2.1.1.isReady = true ∧
      r.2.1.1.ran = [(0, true), (2, true), (1, true)]))
    ⟨rfl, rfl⟩ (by decide +kernel)
  obtain ⟨hr, hran⟩ := of_decide_eq_true hs
  have hall := handlers_run_once h
  exact ⟨past, s, tr, h, hran, hall.2.2.2.2.1, hall.2.1 hr⟩

/-- A context is assigned, a handler waits, and the device is loaded: until
`init` resumes the handler waits although both conditions hold. -/
theorem handler_left_waiting : ∃ past w tr,
    machine.Run anyStep past w tr ∧ w.loaded = true ∧
      w.audioContext = true ∧
      (∀ v ∈ past, ¬ (v.loaded = true ∧ v.audioContext = true)) ∧
      w.onceReadyHandlers.map Prod.fst = [0] := by
  obtain ⟨past, w, tr, h, hw⟩ := Machine.Run.exists_of_exec
    (M := machine) (G := anyStep)
    (l := [.assignAudioContext false, .onceReady [], .load]) (s := initial)
    (p := fun r => decide (r.2.1.loaded = true ∧
      r.2.1.audioContext = true ∧
      (∀ v ∈ r.1, ¬ (v.loaded = true ∧ v.audioContext = true)) ∧
      r.2.1.onceReadyHandlers.map Prod.fst = [0]))
    rfl (by decide +kernel)
  exact ⟨past, w, tr, h, of_decide_eq_true hw⟩

end Twolk.Web.Readiness
