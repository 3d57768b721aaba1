import GpuTrace.Proofs.Collector.Paths
import GpuTrace.Proofs.Session.Lockstep
import GpuTrace.Proofs.Session.WellFormed

/-!
# Paths — the immediate and the deferred way through a session

The same operations are appended to an immediate list, or to a deferred one that is executed
afterwards. Both runs end with calls of equal commands, and the application can not tell them apart
but by the queue in its notices, whatever it waits for from then on (`paths_agree`).
-/

namespace GpuTrace.Session

open Fallible

variable {s s' : Session} {c : Collector} {t : Tracing} {token : Nat} {list : CommandListHandle}

def appending (token : Nat) (list : CommandListHandle)
    (ops : List (Operation × Option EventHandle)) : List Action :=
  ops.flatMap fun op => [.enterAppend token list op.1 op.2, .exitAppend token (.ok ())]

def executing (token : Nat) (queue : QueueHandle) (list : CommandListHandle) : List Action :=
  [.enterExecute token queue [list], .exitExecute token (.ok ())]

/-! ## Steps of the collector -/

theorem trace_of_ok {α : Type} {step : Fallible Tracing α} {a : α} (hc : s.collector = some c)
    (h : step (s.tracing c) = .ok a t) : trace step s = .ok (some a) (s.after t) := by
  unfold tracing at h
  unfold trace
  rw [hc]
  dsimp only
  rw [h]

theorem trace_of_error {α : Type} {step : Fallible Tracing α} {e : Fault}
    (hc : s.collector = some c) (h : step (s.tracing c) = .error e t) :
    trace step s = .error e (s.after t) := by
  unfold tracing at h
  unfold trace
  rw [hc]
  dsimp only
  rw [h]

theorem final_trace {α : Type} {step : Fallible Tracing α} (hc : s.collector = some c) :
    final (trace step) s = s.after (final step (s.tracing c)) := by
  cases h : step (s.tracing c) with
  | ok a t => rw [final_of_ok (trace_of_ok hc h), final_of_ok h]
  | error e t => rw [final_of_error (trace_of_error hc h), final_of_error h]

/-! ## Tokens -/

theorem step_exitAppend_free (free : s.appends.get? token = none) (result : DriverResult) :
    (s.step (.exitAppend token result)).2 = s := by
  have hcontains : s.appends.contains token = false := Table.contains_eq_false_iff.mpr free
  rw [step_final]
  refine (final_bind_of_ok (x := get) rfl).trans ?_
  rw [hcontains]
  rfl

/-- The hook behind an append takes what the one before it left, and its number is free again. -/
theorem step_exitAppend_kept (hc : s.collector = some c) (free : s.appends.get? token = none)
    (append : InFlightAppend) (result : DriverResult) :
    (({ s with appends := s.appends.insert token append }).step (.exitAppend token result)).2 =
      s.after (final (Tracing.exitAppend append result) (s.tracing c)) := by
  have herase := Table.erase_insert_of_absent append free
  rw [step_final]
  refine (final_bind_of_ok (x := get) rfl).trans ?_
  dsimp only
  rw [Table.contains_insert_self]
  refine (final_bind_of_pure fun _ _ => rfl).trans ?_
  refine (final_bind_of_ok (x := get) rfl).trans ?_
  dsimp only
  rw [Table.get?_insert_self]
  refine (final_bind_of_ok (modify_of_eq ?_)).trans (final_trace hc)
  rw [herase]

theorem run_appendThrough (hc : s.collector = some c) (free : s.appends.get? token = none)
    (list : CommandListHandle) (op : Operation) (signal : Option EventHandle) :
    s.run [.enterAppend token list op signal, .exitAppend token (.ok ())] =
      s.after (final (Tracing.appendThrough list op signal) (s.tracing c)) := by
  have henter : (s.step (.enterAppend token list op signal)).2 =
      final (Session.enterAppend token list op signal) s := by
    rw [step_final]
    refine final_bind_of_pure fun answer s' => ?_
    cases answer <;> rfl
  rw [run_cons, run_cons, run_nil, henter]
  unfold Tracing.appendThrough
  cases hx : Tracing.enterAppend list op signal (s.tracing c) with
  | error e t =>
    -- The hook before the append stopped and left nothing under the number.
    have hleft : final (Session.enterAppend token list op signal) s = s.after t :=
      final_of_error (bind_of_error (trace_of_error hc hx))
    rw [hleft, step_exitAppend_free (s := s.after t) free, final_of_error (bind_of_error hx)]
  | ok answer t =>
    unfold Session.enterAppend
    rw [final_bind_of_ok hx, final_bind_of_ok (trace_of_ok hc hx), Option.bind_some]
    cases answer.inFlight with
    | none => exact step_exitAppend_free (s := s.after t) free _
    | some append =>
      exact step_exitAppend_kept (s := s.after t) (c := t.collector) rfl free append _

theorem run_appending (hc : s.collector = some c) (free : s.appends.get? token = none)
    (ops : List (Operation × Option EventHandle)) :
    s.run (appending token list ops) = s.after (Tracing.appendAll list ops (s.tracing c)) := by
  induction ops generalizing s c with
  | nil => exact (after_tracing hc).symm
  | cons op ops ih =>
    -- Each append frees its number, so the next one can use it.
    have hfirst := run_appendThrough hc free list op.1 op.2
    refine (run_append s _ (appending token list ops)).trans ?_
    rw [hfirst]
    exact ih (s := s.after _) rfl free

theorem step_exitExecute_kept (hc : s.collector = some c) (token : Nat) (submit : SubmitToken)
    (result : DriverResult) :
    (({ s with submits := s.submits.insert token submit }).step (.exitExecute token result)).2 =
      { s.after (final (Tracing.exitExecute submit result) (s.tracing c)) with
        submits := (s.submits.insert token submit).erase token } := by
  rw [step_final]
  refine (final_bind_of_ok (x := get) rfl).trans ?_
  dsimp only
  rw [Table.contains_insert_self]
  refine (final_bind_of_pure fun _ _ => rfl).trans ?_
  refine (final_bind_of_ok (x := get) rfl).trans ?_
  dsimp only
  rw [Table.get?_insert_self]
  exact (final_bind_of_ok (modify_of_eq rfl)).trans (final_trace hc)

theorem run_executing (hc : s.collector = some c) (token : Nat) {queue : QueueHandle}
    {submit : SubmitToken} {t' : Tracing}
    (henter : Tracing.enterExecute queue [list] (s.tracing c) = .ok (some submit) t)
    (hexit : Tracing.exitExecute submit (.ok ()) t = .ok () t') :
    ∃ submits, s.run (executing token queue list) = { s.after t' with submits } := by
  have hfirst : Session.enterExecute token queue [list] s =
      .ok (some submit) { s.after t with submits := s.submits.insert token submit } :=
    (bind_of_ok (trace_of_ok hc henter)).trans rfl
  have hkept : (s.step (.enterExecute token queue [list])).2 =
      { s.after t with submits := s.submits.insert token submit } := by
    rw [step_final]
    exact (final_bind_of_pure fun _ _ => rfl).trans (final_of_ok hfirst)
  have hdone := step_exitExecute_kept (s := s.after t) (c := t.collector) rfl token submit (.ok ())
  have hfinal : final (Tracing.exitExecute submit (.ok ()))
      ((s.after t).tracing t.collector) = t' := final_of_ok hexit
  refine ⟨(s.submits.insert token submit).erase token, ?_⟩
  unfold executing
  rw [run_cons, run_cons, run_nil, hkept]
  refine hdone.trans ?_
  rw [hfinal]
  rfl

theorem run_paths (hc : s.collector = some c) (p : Tracing.ListPair (s.tracing c))
    (free : s.appends.get? token = none) (queue : QueueHandle)
    (ops : List (Operation × Option EventHandle)) :
    ∃ commands t t' submits, p.Beside commands t t' ∧
      s.run (appending token p.direct ops) = s.after t ∧
      s.run (appending token p.deferred ops ++ executing token queue p.deferred) =
        { s.after (t.withRegistry (p.executed queue commands)) with submits } := by
  obtain ⟨commands, h⟩ := p.appendAll_together ops
  have hexecuting := run_executing
    (s := s.after (Tracing.appendAll p.deferred ops (s.tracing c))) rfl token
    (Tracing.ListPair.enterExecute_deferred h queue) (Tracing.ListPair.exitExecute_deferred h queue)
  obtain ⟨submits, hexecuting⟩ := hexecuting
  refine ⟨commands, _, _, submits, h, run_appending hc free ops, ?_⟩
  rw [run_append, run_appending hc free ops]
  exact hexecuting

/-! ## Runs of twins -/

def Twins (r r' : Registry) (s s' : Session) : Prop :=
  ∃ c c', s.collector = some c ∧ s'.collector = some c' ∧
    Tracing.Twins r r' (s.tracing c) (s'.tracing c')

theorem twins_lifts (r r' : Registry) : Lifts (Tracing.Twins r r') (Twins r r') where
  driver := by
    rintro s s' ⟨c, c', -, -, h⟩
    exact h.driver
  now := by
    rintro s s' ⟨c, c', -, -, h⟩
    exact h.now
  set_driver := by
    rintro s s' ⟨c, c', hc, hc', h⟩ driver
    exact ⟨c, c', hc, hc', { h with driver := rfl }⟩
  set_now := by
    rintro s s' ⟨c, c', hc, hc', h⟩ now
    exact ⟨c, c', hc, hc', { h with now := rfl }⟩
  collector h := .inr h
  after _ t t' ht := ⟨t.collector, t'.collector, rfl, rfl, ht⟩

/-- Twins answer the same to an application that waits, and remain twins. -/
theorem Twins.step {r r' : Registry} (h : Twins r r' s s') {a : Action} (ha : a.isAwaiting = true) :
    (s'.step a).1 = (s.step a).1 ∧ Twins r r' (s.step a).2 (s'.step a).2 :=
  step_of_lockstep ((twins_lifts r r').awaiting_lockstep Tracing.twins_mirrors ha) h

theorem Twins.run {r r' : Registry} (h : Twins r r' s s') {later : List Action}
    (hlater : ∀ a ∈ later, a.isAwaiting = true) : Twins r r' (s.run later) (s'.run later) := by
  induction later generalizing s s' with
  | nil => exact h
  | cons a later ih =>
    refine ih (h.step (hlater a List.mem_cons_self)).2 fun b hb => ?_
    exact hlater b (List.mem_cons_of_mem _ hb)

/-- **Immediate and deferred paths agree.** Two registered lists are empty, one immediate and one
deferred, of one context and on one device of the driver, and tracing is enabled. Clock and timer
stand still while operations are appended, each entered and accepted, to the immediate list, or
else to the deferred list, which is then executed once on a queue. Either way both lists hold the
same commands, and the calls that the two paths add are their first ones, slot by slot, with the
same anchor; they differ in the list and the queue. From then on the same actions that signal
events and complete calls have the same answers and lead to the same profile, and to notices that
differ in the queue alone. -/
theorem paths_agree (driver : Driver) (now : UInt64) (before : List Action) (token : Nat)
    (list list' : CommandListHandle) (queue : QueueHandle)
    (ops : List (Operation × Option EventHandle)) (c : Collector) (info info' : CommandList)
    (state : DeviceState) (hc : ((Session.of driver now).run before).collector = some c)
    (enabled : c.enabled = true)
    (free : ((Session.of driver now).run before).appends.get? token = none)
    (found : c.registry.lists.get? list = some info)
    (found' : c.registry.lists.get? list' = some info')
    (immediate : info.immediate = true) (immediate' : info'.immediate = false)
    (empty : info.commands = #[]) (empty' : info'.commands = #[])
    (context : info'.context = info.context) (device : info'.device = info.device)
    (timer : ((Session.of driver now).run before).driver.devices.get? info.device = some state) :
    let s := (Session.of driver now).run before
    let s₁ := s.run (appending token list ops)
    let s₂ := s.run (appending token list' ops ++ executing token queue list')
    let anchor : SubmitAnchor := ⟨s.now, state.time &&& s.driver.timestampMask⟩
    ∃ c₁ c₂ commands tail₁ tail₂, s₁.collector = some c₁ ∧ s₂.collector = some c₂ ∧
      (c₁.registry.lists.get? list).map (·.commands) = some commands ∧
      (c₂.registry.lists.get? list').map (·.commands) = some commands ∧
      c₁.registry.pending = c.registry.pending ++ tail₁ ∧
      c₂.registry.pending = c.registry.pending ++ tail₂ ∧
      tail₁ = CommandList.firstCalls list info.epoch list.asQueue anchor commands.size ∧
      tail₂ = CommandList.firstCalls list' info'.epoch queue anchor commands.size ∧
      List.Forall₂ (Call.Twins c₁.registry c₂.registry) tail₁ tail₂ ∧
      ∀ later : List Action, (∀ a ∈ later, a.isAwaiting = true) →
        ∃ d₁ d₂, (s₁.run later).collector = some d₁ ∧ (s₂.run later).collector = some d₂ ∧
          d₂.profile = d₁.profile ∧ (s₂.run later).driver = (s₁.run later).driver ∧
          List.Forall₂ Notice.Requeued (s₁.run later).journal.notices.toList
            (s₂.run later).journal.notices.toList ∧
          ∀ a : Action, a.isAwaiting = true →
            ((s₂.run later).step a).1 = ((s₁.run later).step a).1 := by
  intro s s₁ s₂ anchor
  have hwf : (s.tracing c).registry.WellFormed := registryWellFormed_run driver now before c hc
  let p : Tracing.ListPair (s.tracing c) :=
    ⟨list, list', info, info', state, enabled, found, found', immediate, immediate', empty, empty',
      context, device, timer⟩
  obtain ⟨commands, t, t', submits, h, hrun, hrun'⟩ := run_paths hc p free queue ops
  have hs₁ : s₁ = s.after t := hrun
  have hs₂ : s₂ = { s.after (t.withRegistry (p.executed queue commands)) with submits } := hrun'
  have hc₁ : s₁.collector = some t.collector := congrArg Session.collector hs₁
  have hc₂ : s₂.collector = some (t.withRegistry (p.executed queue commands)).collector :=
    congrArg Session.collector hs₂
  have htwins : Twins (p.submitted commands) (p.executed queue commands) s₁ s₂ := by
    refine ⟨_, _, hc₁, hc₂, ?_⟩
    rw [hs₁, hs₂]
    exact Tracing.ListPair.twins hwf h queue
  -- Calling a command changes its count, not the number of commands.
  let called := ((p.info.filled commands).called commands.size).commands
  have hsize : called.size = commands.size := Array.size_mapIdx
  refine ⟨_, _, called, _, _, hc₁, hc₂, ?_, ?_, h.pending, h.pending' queue, ?_, ?_, ?_, ?_⟩
  · exact congrArg (Option.map _) (Registry.list_eq_ok_iff.mp h.list)
  · exact congrArg (Option.map _) (Registry.get?_put p.found' _)
  · rw [hsize]
    rfl
  · rw [hsize]
    rfl
  · have hnew := p.twins_new commands queue
    rw [← h.registry] at hnew
    exact hnew
  · intro later hlater
    have hlast := htwins.run hlater
    have hanswers := fun a ha => (hlast.step (a := a) ha).1
    obtain ⟨d₁, d₂, hd₁, hd₂, hd⟩ := hlast
    exact ⟨d₁, d₂, hd₁, hd₂, hd.profile, hd.driver, hd.notices, hanswers⟩

def twoLists : List Action :=
  [.addDevice 1000 0, .setDeviceTime ⟨1⟩ 5, .create .default true, .newEvent,
    .exitListCreate ⟨50⟩ ⟨60⟩ ⟨1⟩ true (.ok ()), .exitListCreate ⟨51⟩ ⟨60⟩ ⟨1⟩ false (.ok ())]

/-- A barrier with the event of the application stands between two operations without one. -/
def threeOperations : List (Operation × Option EventHandle) :=
  [(.memoryCopy 4096, none), (.barrier, some ⟨4⟩), (.memoryFill 64, none)]

/-- Two calls complete in one sweep, and the one between them when its event is asked for. -/
def threeSignals : List Action :=
  [.signal ⟨6⟩ ⟨10, 20⟩, .signal ⟨8⟩ ⟨30, 70⟩, .processCalls, .signal ⟨4⟩ ⟨40, 50⟩,
    .processEvent ⟨4⟩]

/-- Three calls wait on either path, and their notices name the immediate list or the queue. -/
theorem paths_agree_threeOperations :
    let s := (Session.of .standard 7).run twoLists
    let s₁ := s.run (appending 0 ⟨50⟩ threeOperations)
    let s₂ := s.run (appending 0 ⟨51⟩ threeOperations ++ executing 0 ⟨70⟩ ⟨51⟩)
    let t₁ := s₁.run threeSignals
    let t₂ := s₂.run threeSignals
    s₁.collector.map (·.pendingCount) = some 3 ∧ s₂.collector.map (·.pendingCount) = some 3 ∧
      t₁.journal.notices.toList.map (·.finish.queue) = [⟨50⟩, ⟨50⟩, ⟨50⟩] ∧
      t₂.journal.notices.toList.map (·.finish.queue) = [⟨70⟩, ⟨70⟩, ⟨70⟩] ∧
      List.Forall₂ Notice.Requeued t₁.journal.notices.toList t₂.journal.notices.toList ∧
      t₂.collector.map (·.profile) = t₁.collector.map (·.profile) := by
  intro s s₁ s₂ t₁ t₂
  obtain ⟨c₁, c₂, commands, tail₁, tail₂, -, -, -, -, -, -, -, -, -, hlater⟩ :=
    paths_agree .standard 7 twoLists 0 ⟨50⟩ ⟨51⟩ ⟨70⟩ threeOperations
      (s.collector.get (by decide +kernel)) (.blank ⟨60⟩ ⟨1⟩ true 0) (.blank ⟨60⟩ ⟨1⟩ false 1)
      ⟨1000, 5, [], true⟩
      (Option.some_get _).symm (by decide +kernel) (by decide +kernel) (by decide +kernel)
      (by decide +kernel) rfl rfl rfl rfl rfl rfl (by decide +kernel)
  obtain ⟨d₁, d₂, hd₁, hd₂, hprofile, -, hnotices, -⟩ := hlater threeSignals (by decide +kernel)
  refine ⟨by decide +kernel, by decide +kernel, by decide +kernel, by decide +kernel, ?_, ?_⟩
  · simpa only [t₁, t₂, s₁, s₂, s] using hnotices
  · show (s₂.run threeSignals).collector.map _ = (s₁.run threeSignals).collector.map _
    rw [hd₁, hd₂]
    exact congrArg some hprofile

end GpuTrace.Session
