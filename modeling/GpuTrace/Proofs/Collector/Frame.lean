import GpuTrace.Collector.Lifetime
import GpuTrace.Proofs.Driver.Signals
import GpuTrace.Proofs.Registry.Move

/-!
# Frames — the parts of a collector at work that a hook can touch

A hook acts on one of three parts, whatever its end: on the registry
(`ViaRegistry`), on the pending calls and the profile when calls complete
(`ViaCompletion`), or on the driver, with warnings (`ViaDriver`). The rest is as
before. Hooks that do several of these, like the teardown of a list, take the registry
through changes and the driver through calls (`ViaChanges`). Those of them that complete no call
leave the profile and the notices as they were (`Hushed`).

`ViaRegistry` and `ViaChanges` also say which changes the registry went through: completions and
teardowns bring neither commands nor calls. No hook moves a device timer, or signals or resets an
event (`Driver.Tended`).
-/

namespace GpuTrace

theorem Command.eq_of_ok {props : Props} {signal : SignalEvent} {device : DeviceHandle}
    {appendTime frequency : UInt64} {c : Command}
    (h : Command.of props signal device appendTime frequency = .ok c) :
    c = ⟨props, signal, device, 0, appendTime, frequency, 0⟩ := by
  unfold Command.of at h
  split at h
  · cases h
  · cases h
    rfl

namespace Tracing

open Fallible Registry

variable {α : Type} {P : Change → Prop}

/-! ## Three frames -/

/-- Only the registry changed, by changes of the kinds in `P`. -/
def ViaRegistry (P : Change → Prop) (t t' : Tracing) : Prop :=
  ∃ r, Reaches P t.registry r ∧ t' = t.withRegistry r

def ViaCompletion (t t' : Tracing) : Prop :=
  ∃ r p, Reaches (fun c => ∃ index, c = .take index) t.registry r ∧
    t' = (t.withRegistry r).withProfile p

/-- Only the driver changed, and warnings were given. -/
def ViaDriver (t t' : Tracing) : Prop :=
  ∃ driver warnings, t.driver.Tended driver ∧
    t' = { t with driver, journal := { t.journal with warnings } }

/-- The registry went through changes of the kinds in `P` and the driver through calls; nothing
is said of the rest. -/
structure ViaChanges (P : Change → Prop) (t t' : Tracing) : Prop where
  registry : Reaches P t.registry t'.registry
  driver : t.driver.Tended t'.driver

/-- The registry and the driver changed, but neither the profile nor the notices. -/
structure Hushed (t t' : Tracing) : Prop where
  changes : ViaChanges (fun _ => True) t t'
  profile : t'.profile = t.profile
  notifies : t'.collector.notifies = t.collector.notifies
  notices : t'.journal.notices = t.journal.notices

instance : IsPreorder Tracing (ViaRegistry P) where
  refl t := ⟨t.registry, refl_of (Reaches P) _, rfl⟩
  trans := by
    rintro t _ _ ⟨r, hr, rfl⟩ ⟨r', hr', rfl⟩
    exact ⟨r', trans_of (Reaches P) hr hr', rfl⟩

instance : IsPreorder Tracing ViaCompletion where
  refl t := ⟨t.registry, t.profile, refl_of (Reaches _) _, rfl⟩
  trans := by
    rintro t _ _ ⟨r, p, hr, rfl⟩ ⟨r', p', hr', rfl⟩
    exact ⟨r', p', trans_of (Reaches _) hr hr', rfl⟩

instance : IsPreorder Tracing ViaDriver where
  refl t := ⟨t.driver, t.journal.warnings, refl_of Driver.Tended _, rfl⟩
  trans := by
    rintro t _ _ ⟨d, w, hd, rfl⟩ ⟨d', w', hd', rfl⟩
    exact ⟨d', w', trans_of Driver.Tended hd hd', rfl⟩

instance : IsPreorder Tracing (ViaChanges P) where
  refl t := ⟨refl_of (Reaches _) t.registry, refl_of Driver.Tended t.driver⟩
  trans _ _ _ h h' := ⟨trans_of (Reaches _) h.registry h'.registry,
    trans_of Driver.Tended h.driver h'.driver⟩

instance : IsPreorder Tracing Hushed where
  refl t := ⟨refl_of (ViaChanges _) t, rfl, rfl, rfl⟩
  trans _ _ _ h h' := ⟨trans_of (ViaChanges _) h.changes h'.changes, h'.profile.trans h.profile,
    h'.notifies.trans h.notifies, h'.notices.trans h.notices⟩

theorem ViaChanges.of_eq {t t' : Tracing} (hr : t'.registry = t.registry)
    (hd : t'.driver = t.driver) : ViaChanges P t t' :=
  ⟨hr ▸ refl_of (Reaches _) _, hd ▸ refl_of Driver.Tended _⟩

theorem ViaChanges.imp {P' : Change → Prop} {t t' : Tracing} (h : ViaChanges P t t')
    (hP : ∀ change, P change → P' change) : ViaChanges P' t t' :=
  ⟨h.registry.imp hP, h.driver⟩

theorem ViaChanges.any {t t' : Tracing} (h : ViaChanges P t t') :
    ViaChanges (fun _ => True) t t' :=
  h.imp fun _ _ => trivial

theorem ViaRegistry.changes {t t' : Tracing} (h : ViaRegistry P t t') : ViaChanges P t t' := by
  obtain ⟨r, hr, rfl⟩ := h
  exact ⟨hr, refl_of Driver.Tended t.driver⟩

theorem ViaCompletion.changes {t t' : Tracing} (h : ViaCompletion t t') :
    ViaChanges (·.tends = true) t t' := by
  obtain ⟨r, p, hr, rfl⟩ := h
  refine ⟨hr.imp ?_, refl_of Driver.Tended t.driver⟩
  rintro _ ⟨index, rfl⟩
  rfl

theorem ViaDriver.changes {t t' : Tracing} (h : ViaDriver t t') : ViaChanges P t t' := by
  obtain ⟨d, w, hd, rfl⟩ := h
  exact ⟨refl_of (Reaches _) t.registry, hd⟩

theorem ViaRegistry.hushed {t t' : Tracing} (h : ViaRegistry P t t') : Hushed t t' := by
  have hchanges := h.changes.any
  obtain ⟨r, -, rfl⟩ := h
  exact ⟨hchanges, rfl, rfl, rfl⟩

theorem ViaDriver.hushed {t t' : Tracing} (h : ViaDriver t t') : Hushed t t' := by
  have hchanges : ViaChanges (fun _ => True) t t' := h.changes
  obtain ⟨d, w, -, rfl⟩ := h
  exact ⟨hchanges, rfl, rfl, rfl⟩

/-! ## Steps of one part -/

@[simp] theorem ends_onRegistry {step : Fallible Registry α} {t : Tracing}
    {Q : α → Tracing → Prop} {E : Fault → Tracing → Prop} :
    Ends (onRegistry step) t Q E ↔
      Ends step t.registry (fun a r => Q a (t.withRegistry r))
        (fun e r => E e (t.withRegistry r)) := by
  unfold Ends onRegistry
  cases step t.registry <;> rfl

theorem onRegistry_of_ok {step : Fallible Registry α} {t : Tracing} {a : α} {r : Registry}
    (h : step t.registry = .ok a r) : onRegistry step t = .ok a (t.withRegistry r) := by
  unfold onRegistry
  rw [h]

@[simp] theorem ends_onProfile {step : Fallible Profile α} {t : Tracing}
    {Q : α → Tracing → Prop} {E : Fault → Tracing → Prop} :
    Ends (onProfile step) t Q E ↔
      Ends step t.profile (fun a p => Q a (t.withProfile p))
        (fun e p => E e (t.withProfile p)) := by
  unfold Ends onProfile
  cases step t.profile <;> rfl

@[simp] theorem ends_onDriver {call : Driver → α × Driver} {t : Tracing}
    {Q : α → Tracing → Prop} {E : Fault → Tracing → Prop} :
    Ends (onDriver call) t Q E ↔ Q (call t.driver).1 { t with driver := (call t.driver).2 } :=
  Iff.rfl

@[simp] theorem ends_updateDriver {call : Driver → Except Fault Driver} {t : Tracing}
    {Q : Unit → Tracing → Prop} {E : Fault → Tracing → Prop} :
    Ends (updateDriver call) t Q E ↔
      match call t.driver with
      | .ok driver => Q () { t with driver }
      | .error e => E e t := by
  unfold Ends updateDriver
  cases call t.driver <;> rfl

theorem within_onRegistry {step : Fallible Registry α} (h : Within (Reaches P) step) :
    Within (ViaRegistry P) (onRegistry step) := fun t => by
  rw [ends_onRegistry]
  exact (h t.registry).imp (fun _ r hr => ⟨r, hr, rfl⟩) (fun _ r hr => ⟨r, hr, rfl⟩)

theorem within_onProfile (step : Fallible Profile α) :
    Within ViaCompletion (onProfile step) := fun t => by
  have hframe : ∀ p, ViaCompletion t (t.withProfile p) := fun p =>
    ⟨t.registry, p, refl_of (Reaches _) _, rfl⟩
  unfold Ends onProfile
  cases step t.profile with
  | ok a p => exact hframe p
  | error e p => exact hframe p

theorem within_onDriver {call : Driver → α × Driver} (h : ∀ d : Driver, d.Evolves .any (call d).2)
    (h' : ∀ d : Driver, d.Undisturbed (call d).2) : Within ViaDriver (onDriver call) :=
  fun t => ⟨_, t.journal.warnings, ⟨h t.driver, h' t.driver⟩, rfl⟩

theorem within_warn (w : Warning) : Within ViaDriver (warn w) :=
  fun t => ⟨t.driver, _, refl_of Driver.Tended _, rfl⟩

theorem within_destroyPool (pool : EventPoolHandle) :
    Within ViaDriver (onDriver (·.destroyPool pool)) :=
  within_onDriver (fun _ => Driver.destroyPool_evolves pool trivial)
    fun _ => Driver.destroyPool_undisturbed pool

/-! ## Completion -/

theorem complete_within (index : Nat) : Within ViaCompletion (complete index) := by
  have htake : Within ViaCompletion (onRegistry (removePending index)) := fun t => by
    rw [ends_onRegistry]
    refine (removePending_ends index).imp ?_ ?_
    · rintro call r ⟨hm, -⟩
      exact ⟨r, t.profile, hm.reaches ⟨index, rfl⟩, rfl⟩
    · rintro _ r rfl
      exact refl_of ViaCompletion t
  unfold complete
  refine within_bind htake fun call => within_bind within_get fun t =>
    within_bind (within_lift _) fun command => ?_
  split
  · exact within_throw _
  · exact within_onProfile _

theorem completeEvent_within (event : EventHandle) :
    Within ViaCompletion (completeEvent event) := by
  unfold completeEvent
  refine within_bind within_get fun t => within_bind (within_lift _) fun found => ?_
  split
  · exact within_pure _
  · split
    · exact within_bind (complete_within _) fun _ => within_pure _
    · exact within_pure _
    · exact within_throw _

theorem sweepFrom_within (index : Nat) (calls : List Call) :
    Within ViaCompletion (sweepFrom index calls) := by
  induction calls generalizing index with
  | nil =>
    unfold sweepFrom
    exact within_pure _
  | cons call rest ih =>
    unfold sweepFrom
    refine within_bind within_get fun t => within_bind (within_lift _) fun command => ?_
    split
    · exact within_bind (complete_within _) fun _ => within_bind (ih _) fun _ => within_pure _
    · exact ih _
    · exact within_throw _

theorem sweep_within : Within ViaCompletion sweep :=
  within_bind within_get fun _ => sweepFrom_within _ _

/-! ## Submission -/

theorem createProfilingEvent_within (context : ContextHandle) :
    Within ViaDriver (createProfilingEvent context) := by
  unfold createProfilingEvent
  refine within_bind (within_onDriver (fun _ => Driver.createPool_evolves context _)
    fun _ => Driver.createPool_undisturbed context _) fun made => ?_
  split
  · exact within_pure _
  · rename_i pool
    refine within_bind (within_onDriver (fun _ => Driver.createEvent_evolves pool trivial)
      fun _ => Driver.createEvent_undisturbed pool) fun event => ?_
    split
    · exact within_pure _
    · refine within_bind (within_destroyPool pool) fun destroyed => ?_
      split
      · exact within_pure _
      · exact within_bind (within_warn _) fun _ => within_pure _

theorem releaseCommand_within (command : Command) :
    Within ViaDriver (releaseCommand command) := by
  unfold releaseCommand
  split
  · exact within_pure _
  · refine within_bind (within_onDriver (fun _ => Driver.destroyEvent_evolves _ trivial)
      fun _ => Driver.destroyEvent_undisturbed _) fun destroyed => ?_
    cases destroyed with
    | ok _ =>
      refine within_bind (within_destroyPool _) fun destroyed => ?_
      cases destroyed with
      | ok _ => exact within_pure _
      | error e => exact within_warn _
    | error e =>
      refine within_bind (within_warn _) fun _ =>
        within_bind (within_destroyPool _) fun destroyed => ?_
      cases destroyed with
      | ok _ => exact within_pure _
      | error e => exact within_warn _

theorem releaseCommands_within (commands : List Command) :
    Within ViaDriver (releaseCommands commands) :=
  within_forM fun command _ => releaseCommand_within command

theorem signalFor_within (context : ContextHandle) (name : String) (signal : Option EventHandle) :
    Within ViaDriver (signalFor context name signal) := by
  unfold signalFor
  split
  · exact within_pure _
  · refine within_bind (createProfilingEvent_within _) fun created => ?_
    split
    · exact within_pure _
    · exact within_bind (within_warn _) fun _ => within_pure _

theorem enterAppend_within (list : CommandListHandle) (op : Operation)
    (signal : Option EventHandle) : Within ViaDriver (enterAppend list op signal) := by
  unfold enterAppend
  refine within_bind within_get fun t => ?_
  split
  · exact within_pure _
  · refine within_bind (within_lift _) fun device => within_bind (within_lift _) fun props =>
      within_bind (within_lift _) fun anchor => within_bind (within_lift _) fun context =>
      within_bind (signalFor_within _ _ _) fun made => ?_
    split
    · exact within_pure _
    · exact within_bind within_get fun _ => within_bind (within_lift _) fun _ =>
        within_bind (within_lift _) fun _ => within_pure _

/-- An append in flight was not registered: it has no calls. -/
theorem enterAppend_answers (list : CommandListHandle) (op : Operation)
    (signal : Option EventHandle) :
    Answers (fun answer : AppendAnswer => ∀ append, answer.inFlight = some append →
      append.list = list ∧ append.command.callCount = 0) (enterAppend list op signal) := by
  have hnone : ∀ s, Answers (fun answer : AppendAnswer => ∀ append,
      answer.inFlight = some append → append.list = list ∧ append.command.callCount = 0)
      (pure ⟨none, s⟩ : Fallible Tracing AppendAnswer) := fun s => answers_pure nofun
  unfold enterAppend
  refine answers_bind fun t => ?_
  split
  · exact hnone signal
  · refine answers_bind fun device => answers_bind fun props => answers_bind fun anchor =>
      answers_bind fun context => answers_bind fun made => ?_
    split
    · exact hnone none
    · refine answers_bind fun _ => answers_bind fun frequency =>
        answers_bind_lift fun command hc => answers_pure ?_
      rintro _ ⟨⟩
      exact ⟨rfl, by rw [Command.eq_of_ok hc]⟩

/-- A hook behind a driver call does nothing if the driver refused the call. -/
theorem within_accepted {R : Tracing → Tracing → Prop} [IsPreorder Tracing R]
    {step : Fallible Tracing Unit} (result : DriverResult) (h : Within R step) :
    Within R (match result with
      | .error _ => return ()
      | .ok () => step) := by
  cases result with
  | error _ => exact within_pure _
  | ok _ => exact h

/-- An append that the driver accepted is registered, with its call on an immediate
list. -/
theorem exitAppend_ok_within (append : InFlightAppend) (hspend : P .spendKernelId)
    (happend : P (.append append.list append.command))
    (hcall : ∀ ref anchor, ref.list = append.list → append.anchor = some anchor →
      P (.call (Call.of ref append.list.asQueue anchor))) :
    Within (ViaRegistry P) (exitAppend append (.ok ())) := fun t => by
  unfold exitAppend
  simp only [ends_bind, ends_onRegistry]
  refine (addCommand_ends append.command).imp ?_ fun _ r hm => ⟨r, hm.reaches hspend, rfl⟩
  rintro ref r ⟨hm, info, -, rfl⟩
  have hregistered : ViaRegistry P t (t.withRegistry r) := ⟨r, hm.reaches happend, rfl⟩
  split
  · rename_i anchor hanchor
    rw [ends_onRegistry]
    refine (addCall_ends _).imp (fun _ r' hcalled => ?_) ?_
    · exact trans_of (ViaRegistry P) hregistered
        ⟨r', hcalled.reaches (hcall _ anchor rfl hanchor), rfl⟩
    · rintro _ _ rfl
      exact hregistered
  · exact hregistered

theorem enterExecute_within (queue : QueueHandle) (lists : List CommandListHandle) :
    Within Eq (enterExecute queue lists) := by
  unfold enterExecute
  refine within_bind within_get fun t => ?_
  split
  · exact within_pure _
  · refine within_bind (within_mapM fun list _ => ?_) fun _ => within_pure _
    exact within_bind (within_lift _) fun _ => within_bind (within_lift _) fun _ => within_pure _

theorem exitExecute_within (token : SubmitToken) (result : DriverResult)
    (hclear : ∀ list, P (.clear list))
    (hcall : ∀ entry ∈ token.anchors, ∀ ref, ref.list = entry.1 →
      P (.call (Call.of ref token.queue entry.2))) :
    Within (ViaRegistry P) (exitExecute token result) := by
  have hlist : ∀ entry ∈ token.anchors,
      Within (ViaRegistry P) (submitList token.queue entry.1 entry.2) := by
    rintro ⟨list, anchor⟩ hentry
    unfold submitList
    refine within_bind within_get fun t => within_bind (within_lift _) fun immediate => ?_
    have hadd : Within (ViaRegistry P)
        (discard <| onRegistry (addCalls list token.queue anchor)) :=
      within_discard (within_onRegistry
        (within_addCalls _ _ _ (hclear _) (hcall _ hentry)))
    cases immediate with
    | true => exact within_pure _
    | false => exact hadd
  exact within_accepted result (within_forM hlist)

/-! ## Objects -/

theorem exitListCreate_within (list : CommandListHandle) (context : ContextHandle)
    (device : DeviceHandle) (immediate : Bool) (result : DriverResult)
    (hcreate : P (.create list context device immediate)) :
    Within (ViaRegistry P) (exitListCreate list context device immediate result) := by
  refine within_accepted result (within_onRegistry fun r => ?_)
  refine (createList_ends context device immediate).imp (fun _ _ hm => hm.reaches hcreate) ?_
  rintro _ _ rfl
  exact refl_of (Reaches P) _

theorem exitKernelSetGroupSize_within (kernel : KernelHandle) (size : Dims)
    (result : DriverResult) (hcaches : ∀ g i, P (.caches g i)) :
    Within (ViaRegistry P) (exitKernelSetGroupSize kernel size result) :=
  within_accepted result (within_onRegistry fun _ => Move.caches.reaches (hcaches _ _))

theorem exitKernelDestroy_within (kernel : KernelHandle) (result : DriverResult)
    (hcaches : ∀ g i, P (.caches g i)) :
    Within (ViaRegistry P) (exitKernelDestroy kernel result) :=
  within_accepted result (within_onRegistry fun _ => Move.caches.reaches (hcaches _ _))

theorem exitImageCreate_within (image : ImageHandle) (desc : ImageDesc) (result : DriverResult)
    (hcaches : ∀ g i, P (.caches g i)) :
    Within (ViaRegistry P) (exitImageCreate image desc result) := by
  exact within_accepted result (within_bind (within_lift _) fun size =>
    within_onRegistry (within_addImage image size hcaches))

theorem exitImageDestroy_within (image : ImageHandle) (result : DriverResult)
    (hcaches : ∀ g i, P (.caches g i)) :
    Within (ViaRegistry P) (exitImageDestroy image result) := by
  exact within_accepted result (within_onRegistry (within_removeImage image hcaches))

/-! ## Hooks on several parts -/

theorem notify_within (finished : List KernelFinish) : Within (ViaChanges P) (notify finished) := by
  intro t
  unfold notify
  rw [ends_modify]
  split <;> exact .of_eq rfl rfl

theorem processEvent_within (event : EventHandle) :
    Within (ViaChanges (·.tends = true)) (processEvent event) := by
  unfold processEvent
  refine within_bind ((completeEvent_within event).imp fun _ _ h => h.changes) fun found => ?_
  split
  · exact within_bind (notify_within _) fun _ => within_pure _
  · exact within_pure _

theorem processCalls_within : Within (ViaChanges (·.tends = true)) processCalls := by
  unfold processCalls
  exact within_bind (sweep_within.imp fun _ _ h => h.changes) fun _ =>
    within_bind (notify_within _) fun _ => within_pure _

theorem drainAndFree_within {take : Fallible Registry (Array Command)}
    (htake : Within (Reaches (·.tends = true)) take) :
    Within (ViaChanges (·.tends = true)) (drainAndFree take) := by
  unfold drainAndFree
  exact within_bind (sweep_within.imp fun _ _ h => h.changes) fun _ =>
    within_bind ((within_onRegistry htake).imp fun _ _ h => h.changes) fun _ =>
    within_bind (notify_within _) fun _ => (releaseCommands_within _).imp fun _ _ h => h.changes

theorem exitListDestroy_within (list : CommandListHandle) (result : DriverResult) :
    Within (ViaChanges (·.tends = true)) (exitListDestroy list result) :=
  within_accepted result (drainAndFree_within fun _ => removeList_ends.imp
    (fun _ _ h => h.1.reaches rfl) (fun _ _ hm => hm.reaches rfl))

theorem exitListReset_within (list : CommandListHandle) (result : DriverResult) :
    Within (ViaChanges (·.tends = true)) (exitListReset list result) :=
  within_accepted result (drainAndFree_within fun _ => resetList_ends.imp
    (fun _ _ h => h.1.reaches rfl) (fun _ _ hm => hm.reaches rfl))

theorem exitAppend_within (append : InFlightAppend) (result : DriverResult) :
    Within Hushed (exitAppend append result) := by
  cases result with
  | error e => exact (releaseCommand_within append.command).imp fun _ _ h => h.hushed
  | ok _ =>
    exact (exitAppend_ok_within (P := fun _ => True) append trivial trivial
      fun _ _ _ _ => trivial).imp fun _ _ h => h.hushed

theorem setEnabled_within (enabled : Bool) : Within Hushed (setEnabled enabled) := by
  unfold setEnabled
  refine within_bind within_get fun t => within_bind
    ((within_onDriver (fun _ => Driver.setEnabled_evolves _ _)
      fun _ => (Driver.setEnabled_untouched _ _).undisturbed).imp fun _ _ h => h.hushed)
    fun switched => ?_
  split
  · exact within_pure _
  · exact within_bind (fun t => ⟨.of_eq rfl rfl, rfl, rfl, rfl⟩) fun _ => within_pure _

end Tracing

end GpuTrace
