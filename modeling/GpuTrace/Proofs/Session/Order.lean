import GpuTrace.Proofs.Collector.Order
import GpuTrace.Proofs.Session.WellFormed

/-!
# Order of completion in a session

Whichever events are asked for, in whichever order and however often, a sweep behind them leaves
what one sweep alone leaves (`completion_order`).
-/

namespace GpuTrace.Session

open Fallible Tracing

variable {s : Session} {c : Collector}

theorem along_of_answers {I : Session → Prop} {actions : List Action} (hs : I s)
    (hstep : ∀ a ∈ actions, a.isLifecycle = false ∧
      ∀ s, I s → Ends a.perform s (fun _ s' => I s') (fun _ _ => False)) :
    Along next Serves s actions ∧ I (s.run actions) := by
  induction actions generalizing s with
  | nil => exact ⟨trivial, hs⟩
  | cons a actions ih =>
    obtain ⟨⟨ha, hkeeps⟩, hrest⟩ := List.forall_mem_cons.mp hstep
    rcases step_of_ends (hkeeps s hs) with ⟨answer, hanswer, hnext⟩ | ⟨e, -, hfalse⟩
    · obtain ⟨halong, hrun⟩ := ih hnext hrest
      exact ⟨⟨⟨ha, answer, hanswer⟩, halong⟩, hrun⟩
    · exact hfalse.elim

/-- **Completion order does not matter.** If a sweep ends with an answer, so that each pending event
is not ready or ready with ticks that can be taken in (`processCalls_clears`), then it also does so
behind any questions for single events, and none of these stops. The same calls wait as behind the
sweep alone, in order; the kernel table is the same, and the intervals and the notices are the same
up to their order. -/
theorem completion_order (driver : Driver) (now : UInt64) (actions : List Action) (c : Collector)
    (hc : ((Session.of driver now).run actions).collector = some c) (answer : Answer)
    (hanswer : (((Session.of driver now).run actions).step .processCalls).1 = .ok answer)
    (events : List EventHandle) :
    let s := (Session.of driver now).run actions
    let alone := s.run [.processCalls]
    let behind := s.run (events.map .processEvent ++ [.processCalls])
    Along next Serves s (events.map .processEvent ++ [.processCalls]) ∧
    ∃ c₁ c₂ finished₁ finished₂, alone.collector = some c₁ ∧ behind.collector = some c₂ ∧
      c₁.registry.pending = (s.tracing c).waiting c.registry.pending ∧
      c₂.registry.pending = c₁.registry.pending ∧
      (∀ name, c₂.profile.kernels.get? name = c₁.profile.kernels.get? name) ∧
      c₂.profile.intervals.toList.Perm c₁.profile.intervals.toList ∧
      told alone.journal = told s.journal ++ finished₁ ∧
      told behind.journal = told s.journal ++ finished₂ ∧ finished₂.Perm finished₁ := by
  intro s alone behind
  have hwf : c.registry.WellFormed := registryWellFormed_run driver now actions c hc
  -- one sweep, and what it shows of the pending calls
  have hsweep : Ends Action.processCalls.perform s
      (fun _ s' => ∃ t, s' = s.after t ∧ Cleared (s.tracing c) t) (fun _ _ => True) :=
    perform_processCalls hc ((processCalls_clears (t := s.tracing c) hwf).imp
      (fun _ t ht => ⟨t, rfl, ht⟩) fun _ _ _ => trivial)
  obtain ⟨t₁, halone, hcleared⟩ := of_step hsweep (Prod.ext hanswer rfl)
  -- the events do not stop and leave the rest to the sweep behind them
  let I : Session → Prop := fun s' =>
    ∃ t, s' = s.after t ∧ Partway (s.tracing c) t₁.profile t
  have hstart : I s := ⟨s.tracing c, (after_tracing hc).symm, .start hwf hcleared⟩
  have hevents : ∀ a ∈ events.map Action.processEvent, a.isLifecycle = false ∧
      ∀ s', I s' → Ends a.perform s' (fun _ s'' => I s'') (fun _ _ => False) := by
    intro a ha
    obtain ⟨event, -, rfl⟩ := List.mem_map.mp ha
    refine ⟨rfl, ?_⟩
    rintro _ ⟨t, rfl, ht⟩
    exact perform_asking (c := t.collector) rfl rfl
      ((ht.processEvent event).imp (fun _ t' ht' => ⟨t', rfl, ht'⟩) fun _ _ h => h)
  obtain ⟨halong, t, ht, hpartway⟩ := along_of_answers hstart hevents
  have hlast : Ends Action.processCalls.perform (s.run (events.map .processEvent))
      (fun _ s' => ∃ t₂, s' = s.after t₂ ∧ Agree (s.tracing c) t₁ t₂) (fun _ _ => False) := by
    rw [ht]
    exact perform_processCalls (c := t.collector) rfl
      ((hpartway.processCalls hcleared rfl).imp (fun _ t' ht' => ⟨t', rfl, ht'⟩) fun _ _ h => h)
  rcases step_of_ends hlast with ⟨answer', hanswer', t₂, hbehind, hagree⟩ | ⟨-, -, hfalse⟩
  · obtain ⟨finished₁, finished₂, htold₁, htold₂, hperm⟩ := hagree.told
    have hrun : behind = s.after t₂ := by
      show s.run _ = _
      rw [run_append]
      exact hbehind
    have hone : alone = s.after t₁ := halone
    refine ⟨(along_append _ _).mpr ⟨halong, ⟨rfl, answer', hanswer'⟩, trivial⟩, t₁.collector,
      t₂.collector, finished₁, finished₂, by rw [hone]; rfl, by rw [hrun]; rfl, ?_, ?_,
      hagree.profile.table, hagree.profile.intervals, by rw [hone]; exact htold₁,
      by rw [hrun]; exact htold₂, hperm⟩
    · exact congrArg Registry.pending hcleared.registry
    · exact congrArg Registry.pending hagree.registry
  · exact hfalse.elim

def twoSubmittedTwice : List Action :=
  [.addDevice 1000 0, .create .verboseDefault true,
    .exitListCreate ⟨50⟩ ⟨60⟩ ⟨1⟩ false (.ok ()), .enterAppend 0 ⟨50⟩ .barrier none,
    .exitAppend 0 (.ok ()), .enterAppend 1 ⟨50⟩ (.memoryCopy 4096) none, .exitAppend 1 (.ok ()),
    .enterExecute 0 ⟨70⟩ [⟨50⟩, ⟨50⟩], .exitExecute 0 (.ok ()), .signal ⟨4⟩ ⟨10, 20⟩,
    .signal ⟨6⟩ ⟨30, 70⟩]

/-- Both copies and then one barrier are completed by their events, and the other barrier by the
sweep. -/
theorem completion_order_twoSubmittedTwice :
    let s := (Session.of .standard 7).run twoSubmittedTwice
    let alone := s.run [.processCalls]
    let behind := s.run ([⟨6⟩, ⟨6⟩, ⟨9⟩, ⟨4⟩].map .processEvent ++ [.processCalls])
    ∃ c₁ c₂, alone.collector = some c₁ ∧ behind.collector = some c₂ ∧
      c₁.profile.intervals.size = 4 ∧ c₂.profile.intervals.toList.Perm c₁.profile.intervals.toList ∧
      c₂.profile.intervals ≠ c₁.profile.intervals ∧
      (told behind.journal).Perm (told alone.journal) := by
  intro s alone behind
  have hsome : s.collector.isSome = true := by decide +kernel
  obtain ⟨c, hc⟩ := Option.isSome_iff_exists.mp hsome
  have hanswer : ∃ answer, (s.step .processCalls).1 = .ok answer :=
    (by decide +kernel : Serves s .processCalls).2
  obtain ⟨answer, hanswer⟩ := hanswer
  obtain ⟨-, c₁, c₂, finished₁, finished₂, hc₁, hc₂, -, -, -, hintervals, htold₁, htold₂, hperm⟩ :=
    completion_order .standard 7 twoSubmittedTwice c hc answer hanswer [⟨6⟩, ⟨6⟩, ⟨9⟩, ⟨4⟩]
  have hsize : alone.collector.map (·.profile.intervals.size) = some 4 := by decide +kernel
  have hnames : behind.collector.map (·.profile.intervals) ≠
      alone.collector.map (·.profile.intervals) := by decide +kernel
  have hc₁' : alone.collector = some c₁ := hc₁
  have hc₂' : behind.collector = some c₂ := hc₂
  rw [hc₁'] at hsize hnames
  rw [hc₂'] at hnames
  refine ⟨c₁, c₂, hc₁, hc₂, Option.some.inj hsize, hintervals,
    fun heq => hnames (congrArg some heq), ?_⟩
  show (told behind.journal).Perm (told alone.journal)
  rw [htold₁, htold₂]
  exact hperm.append_left _

end GpuTrace.Session
